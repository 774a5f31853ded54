import Gauge.Channel
import Gauge.Clock
import Gauge.Clock.Stamp
import Gauge.Command.Arguments
import Gauge.Command.Assignment
import Gauge.Command.Polling
import Gauge.Command.Report
import Gauge.Command.Run
import Gauge.Command.Usage
import Gauge.Command.World
import Gauge.Decimal.Reader
import Gauge.Decimal.Shortest
import Gauge.Dialect
import Gauge.Dialect.Standard
import Gauge.Engine
import Gauge.Folder
import Gauge.Formula
import Gauge.Formula.Assembler
import Gauge.Log.Filter
import Gauge.Log.Pattern
import Gauge.Log.Record
import Gauge.Log.Setup
import Gauge.Machine
import Gauge.Main
import Gauge.Operator
import Gauge.Proofs.Channel.Lookup
import Gauge.Proofs.Channel.Passes
import Gauge.Proofs.Dialect.Definitions
import Gauge.Proofs.Dialect.Strictness
import Gauge.Proofs.Formula.Alternation
import Gauge.Proofs.Formula.Completeness
import Gauge.Proofs.Formula.Composition
import Gauge.Proofs.Formula.Continuation
import Gauge.Proofs.Formula.Diagnosis
import Gauge.Proofs.Formula.Grammar
import Gauge.Proofs.Formula.Parts
import Gauge.Proofs.Formula.Recognition
import Gauge.Proofs.Formula.Soundness
import Gauge.Proofs.Machine.Absorption
import Gauge.Proofs.Machine.Evaluation
import Gauge.Proofs.Machine.Finiteness
import Gauge.Proofs.Machine.Meaning
import Gauge.Proofs.Machine.Reuse
import Gauge.Proofs.Ring.Contents
import Gauge.Proofs.Ring.Refinement
import Gauge.Proofs.Source.Naming
import Gauge.Proofs.Text.AsciiCase
import Gauge.Proofs.Token.Failure
import Gauge.Proofs.Token.Lexeme
import Gauge.Proofs.Token.Stream
import Gauge.Ring
import Gauge.Ring.Reading
import Gauge.Settings.Basic
import Gauge.Settings.Decode
import Gauge.Settings.Document
import Gauge.Settings.Json
import Gauge.Settings.Load
import Gauge.Settings.Override
import Gauge.Settings.Toml
import Gauge.Settings.Toml.Scalar
import Gauge.Settings.Toml.Table
import Gauge.Settings.Yaml
import Gauge.Settings.Yaml.Alias
import Gauge.Settings.Yaml.Cursor
import Gauge.Settings.Yaml.Node
import Gauge.Settings.Yaml.Scalar
import Gauge.Settings.Yaml.Tag
import Gauge.Settings.Yaml.Token
import Gauge.Signal.Basic
import Gauge.Signal.Library
import Gauge.Signal.Remainder
import Gauge.Signal.Whole
import Gauge.Signal.Word
import Gauge.Source
import Gauge.SyntaxError
import Gauge.Text.Blank
import Gauge.Text.Case
import Gauge.Text.Letter
import Gauge.Text.Lexical
import Gauge.Text.Numeral
import Gauge.Text.Printable
import Gauge.Text.Quoted
import Gauge.Text.Span
import Gauge.Token
import Gauge.Token.Scan
import Gauge.Token.Stream
import Gauge.Proofs.Token.Interruption
import Gauge.Proofs.Formula.Offsets
import Gauge.Proofs.Formula.Spacing
import Gauge.Proofs.Formula.LetterCase
import Gauge.Proofs.Formula.Mentions
import Gauge.Proofs.Machine.Lookups
import Gauge.Proofs.Machine.Relation
import Gauge.Proofs.Command.Recording
import Gauge.Proofs.Command.Passes
import Gauge.Proofs.Signal.Rounding
import Gauge.Proofs.Signal.Value
import Gauge.Proofs.Signal.Words
import Gauge.Proofs.Machine.Bitwise
import Gauge.Proofs.Decimal.Nearest
import Gauge.Proofs.Decimal.ReadBack
import Gauge.Proofs.Token.Display
import Gauge.Proofs.Formula.Listing
import Gauge.Proofs.Ring.Capacity
import Gauge.Proofs.Channel.Compilation
import Gauge.Proofs.Channel.Unambiguous
import Gauge.Proofs.Signal.Arithmetic
import Gauge.Proofs.Signal.Decimals
import Gauge.Proofs.Machine.Decimals
import Gauge.Proofs.Source.Updates
import Gauge.Proofs.Signal.Extremes
import Gauge.Proofs.Formula.Parentheses
import Gauge.Proofs.Formula.Precedence
