import ParseKit.Command.Arguments
import ParseKit.Command.Help
import ParseKit.Command.Host
import ParseKit.Command.Run
import ParseKit.Data.Calendar
import ParseKit.Data.Value
import ParseKit.Decimal.Binary64
import ParseKit.Decimal.Numeral
import ParseKit.Decimal.Shortest
import ParseKit.Diagnostic
import ParseKit.Error
import ParseKit.Files
import ParseKit.Grammar
import ParseKit.Grammar.Document
import ParseKit.Grammar.Search
import ParseKit.Highlight
import ParseKit.Kind
import ParseKit.Lexer
import ParseKit.Log
import ParseKit.Main
import ParseKit.Parsing.Move
import ParseKit.Parsing.Recipe
import ParseKit.Parsing.Script
import ParseKit.Parsing.State
import ParseKit.Pasm.Lexicon
import ParseKit.Pasm.Printer
import ParseKit.Pasm.Syntax
import ParseKit.Pattern
import ParseKit.Proofs.Decimal.ReadBack
import ParseKit.Proofs.Decimal.Reading
import ParseKit.Proofs.Decimal.Rounding
import ParseKit.Proofs.Diagnostics.Colouring
import ParseKit.Proofs.Diagnostics.SourceRow
import ParseKit.Proofs.Lexing.Cursor
import ParseKit.Proofs.Lexing.FirstMatch
import ParseKit.Proofs.Lexing.Highlighting
import ParseKit.Proofs.Lexing.History
import ParseKit.Proofs.Lexing.Matching
import ParseKit.Proofs.Lexing.Partition
import ParseKit.Proofs.Lexing.Reading
import ParseKit.Proofs.Parsing.Accounting
import ParseKit.Proofs.Parsing.Commitment
import ParseKit.Proofs.Parsing.Outcome
import ParseKit.Proofs.Parsing.Provenance
import ParseKit.Proofs.Parsing.Stepping
import ParseKit.Proofs.Parsing.Yield
import ParseKit.Proofs.Pasm.Grammar
import ParseKit.Proofs.Pasm.NormalForm
import ParseKit.Proofs.Pasm.Recognition
import ParseKit.Proofs.Pasm.RoundTrip
import ParseKit.Proofs.Pasm.Spelling
import ParseKit.Proofs.Pasm.Stability
import ParseKit.Proofs.Regex.Bounds
import ParseKit.Proofs.Regex.Runs
import ParseKit.Proofs.Regex.Shifting
import ParseKit.Proofs.Text.Colours
import ParseKit.Proofs.Text.Encoding
import ParseKit.Proofs.Text.Lines
import ParseKit.Proofs.Text.Quoting
import ParseKit.Proofs.Tree.Colouring
import ParseKit.Proofs.Tree.ReadBack
import ParseKit.Regex.Charset
import ParseKit.Regex.Fault
import ParseKit.Regex.Flags
import ParseKit.Regex.Match
import ParseKit.Regex.Reader
import ParseKit.Regex.Syntax
import ParseKit.Source
import ParseKit.Text.Ansi
import ParseKit.Text.Case
import ParseKit.Text.Category
import ParseKit.Text.CharacterName
import ParseKit.Text.CharacterName.Alias
import ParseKit.Text.CharacterName.BasicPlane
import ParseKit.Text.CharacterName.OtherPlanes
import ParseKit.Text.Encoding
import ParseKit.Text.Identifier
import ParseKit.Text.Lines
import ParseKit.Text.Quoted
import ParseKit.Text.RangeSet
import ParseKit.Text.Similarity
import ParseKit.Token
import ParseKit.Toml.Fault
import ParseKit.Toml.Namespace
import ParseKit.Toml.Reader
import ParseKit.Tree.Dump
import ParseKit.Tree.Handler
import ParseKit.Tree.Node
import ParseKit.Tree.NodeStore
import ParseKit.Tree.Result
import ParseKit.Tree.ResultStore
import ParseKit.Tree.Visitor
import ParseKit.Proofs.Parsing.Agreement
import ParseKit.Proofs.Pasm.Gaps
import ParseKit.Proofs.Grammar.Reported
import ParseKit.Proofs.Command.Reprint
import ParseKit.Proofs.Command.Filter
import ParseKit.Proofs.Regex.Words
import ParseKit.Proofs.Lexing.SideBySide
import ParseKit.Proofs.Lexing.FixedWords
import ParseKit.Proofs.Lexing.Restarting
import ParseKit.Proofs.Lexing.Extension
import ParseKit.Proofs.Lexing.Draining
import ParseKit.Proofs.Tree.Dispatch
import ParseKit.Proofs.Tree.Preorder
import ParseKit.Proofs.Pasm.Progress
import ParseKit.Proofs.Pasm.Reserved
import ParseKit.Proofs.Diagnostics.Carets
import ParseKit.Proofs.Diagnostics.FirstLook
import ParseKit.Proofs.Diagnostics.Underline
import ParseKit.Proofs.Grammar.Faithful
import ParseKit.Proofs.Grammar.Nearest
import ParseKit.Proofs.Tree.Rendering
