import Workbench.CommandLine.Arguments
import Workbench.CommandLine.LogLine
import Workbench.CommandLine.Run
import Workbench.Decimal.Binary64
import Workbench.Decimal.Shortest
import Workbench.Files
import Workbench.Highlight
import Workbench.Interpreter.Basic
import Workbench.Interpreter.External
import Workbench.Interpreter.Output
import Workbench.Json.Number
import Workbench.Json.Quoted
import Workbench.Json.Reader
import Workbench.Json.Skip
import Workbench.Json.Typed
import Workbench.Json.Value
import Workbench.Log.Event
import Workbench.Log.Filter
import Workbench.Main
import Workbench.Pattern.Bracket
import Workbench.Pattern.CharSet
import Workbench.Pattern.Escape
import Workbench.Pattern.Flags
import Workbench.Pattern.Form
import Workbench.Pattern.Parser
import Workbench.Pattern.Program
import Workbench.Pattern.Property
import Workbench.Pattern.Property.Age
import Workbench.Pattern.Property.Binary
import Workbench.Pattern.Property.Category
import Workbench.Pattern.Property.Script
import Workbench.Pattern.Property.ScriptExtension
import Workbench.Pattern.Property.Table
import Workbench.Pattern.Regex
import Workbench.Pattern.Room
import Workbench.Pattern.Search
import Workbench.Pattern.Token
import Workbench.Position
import Workbench.Registry
import Workbench.Report
import Workbench.Riff.Patterns
import Workbench.Riff.Rules
import Workbench.Riff.Saved
import Workbench.Riff.Vocabulary
import Workbench.Scanner.Rule
import Workbench.Scanner.Scan
import Workbench.Scanner.Stack
import Workbench.Scanner.Token
import Workbench.Scanner.Trace
import Workbench.Session
import Workbench.Settings.Basic
import Workbench.Settings.Loading
import Workbench.Settings.Reader
import Workbench.Settings.Shared
import Workbench.Shell.Arithmetic
import Workbench.Shell.Builtin
import Workbench.Shell.Escape
import Workbench.Shell.Evaluate
import Workbench.Shell.Expansion
import Workbench.Shell.Floating
import Workbench.Shell.Launch
import Workbench.Shell.Octets
import Workbench.Shell.Parser
import Workbench.Shell.Printf
import Workbench.Shell.Process
import Workbench.Shell.Program
import Workbench.Shell.Signal
import Workbench.Shell.State
import Workbench.Shell.Syntax
import Workbench.Shell.Test
import Workbench.Shell.Token
import Workbench.Shell.Wildcard
import Workbench.Text.Bytes
import Workbench.Text.Classes
import Workbench.Text.DigitTable
import Workbench.Text.ExtenderTable
import Workbench.Text.FoldTable
import Workbench.Text.Lines
import Workbench.Text.Quoted
import Workbench.Text.UnprintableTable
import Workbench.Text.Utf8
import Workbench.Text.WordTable
import Workbench.TokenDump
import Workbench.Proofs.Scanner.Run
import Workbench.Proofs.Scanner.Tiling
import Workbench.Proofs.Pattern.Horizon
import Workbench.Proofs.Pattern.Held
import Workbench.Proofs.Text.Longest
import Workbench.Proofs.Pattern.Preferred
import Workbench.Proofs.Riff.Numerals
import Workbench.Proofs.Riff.Forms
import Workbench.Proofs.Scanner.Declared
import Workbench.Proofs.Scanner.Lines
import Workbench.Proofs.Riff.Moves
import Workbench.Proofs.Riff.Lines
import Workbench.Proofs.Riff.Comments
import Workbench.Proofs.Riff.Slash
import Workbench.Proofs.Riff.Lexemes
import Workbench.Proofs.Scanner.Resumption
import Workbench.Proofs.Json.Reading
import Workbench.Proofs.Riff.Saved
import Workbench.Proofs.Riff.Stacks
import Workbench.Proofs.Highlight
import Workbench.Proofs.Riff.Alphabet
import Workbench.Proofs.Riff.Numbers
import Workbench.Proofs.Riff.Words
import Workbench.Proofs.Riff.Closing
import Workbench.Proofs.Riff.Quoted
import Workbench.Proofs.Riff.RegexLiterals
import Workbench.Proofs.Position
import Workbench.Proofs.Scanner.Building
import Workbench.Proofs.Riff.Hosted
import Workbench.Proofs.Pattern.Appended
import Workbench.Proofs.Pattern.AppendedClasses
import Workbench.Proofs.Pattern.AppendedTokens
import Workbench.Proofs.Pattern.Wrapped
import Workbench.Proofs.Pattern.Spread
import Workbench.Proofs.Pattern.Lockstep
import Workbench.Proofs.Pattern.Pushed
import Workbench.Proofs.Pattern.Written
import Workbench.Proofs.Pattern.Compiled
import Workbench.Proofs.Pattern.Reached
import Workbench.Proofs.Pattern.Found
import Workbench.Proofs.Scanner.Anchored
import Workbench.Proofs.Scanner.Boundaries
import Workbench.Proofs.LineColumn
import Workbench.Proofs.Report
import Workbench.Proofs.Scanner.Coalescing
import Workbench.Proofs.Text.Utf8
import Workbench.Proofs.Interpreter.Output
import Workbench.Proofs.Scanner.Shadowing
import Workbench.Proofs.Riff.Integers
import Workbench.Proofs.Registry
import Workbench.Proofs.Session
import Workbench.Proofs.Text.Quoted
import Workbench.Proofs.Scanner.Joined
import Workbench.Proofs.TokenDump
import Workbench.Proofs.Scanner.Excursion
import Workbench.Proofs.Riff.Newlines
import Workbench.Proofs.Json.Steps
import Workbench.Proofs.Json.Quoted
import Workbench.Proofs.Json.Numbers
import Workbench.Proofs.Json.Frames
import Workbench.Proofs.Json.Values
import Workbench.Proofs.Json.Typed
import Workbench.Proofs.Json.Records
import Workbench.Proofs.Json.Named
import Workbench.Proofs.Settings
