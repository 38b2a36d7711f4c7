import Tickscript.Command
import Tickscript.Dbrp
import Tickscript.Expr
import Tickscript.Expr.Printer
import Tickscript.Expr.Reader
import Tickscript.Literal.Duration
import Tickscript.Literal.Error
import Tickscript.Literal.Number
import Tickscript.Literal.Quote
import Tickscript.Literal.Regex
import Tickscript.Load.Config
import Tickscript.Load.Error
import Tickscript.Load.Files
import Tickscript.Load.Libraries
import Tickscript.Load.Run
import Tickscript.Main
import Tickscript.Number.Binary64
import Tickscript.Number.Shortest
import Tickscript.Operator
import Tickscript.Pattern
import Tickscript.Pattern.Class
import Tickscript.Pattern.Class.Reader
import Tickscript.Pattern.Escape
import Tickscript.Pattern.Limits
import Tickscript.Pattern.Memory
import Tickscript.Pattern.Reader
import Tickscript.Pattern.Shape
import Tickscript.Position
import Tickscript.Program
import Tickscript.Program.Printer
import Tickscript.Program.Reader
import Tickscript.Program.Summary
import Tickscript.Proofs.Accounting
import Tickscript.Proofs.Alignment
import Tickscript.Proofs.AlikeTokens
import Tickscript.Proofs.Comments
import Tickscript.Proofs.DeclaredTypes
import Tickscript.Proofs.DepthCounter
import Tickscript.Proofs.Derivation
import Tickscript.Proofs.DerivedRuns
import Tickscript.Proofs.Directories
import Tickscript.Proofs.Durations
import Tickscript.Proofs.EntryOrder
import Tickscript.Proofs.ExactNumbers
import Tickscript.Proofs.FileAccounts
import Tickscript.Proofs.Formatting
import Tickscript.Proofs.KeyedEdits
import Tickscript.Proofs.KeyedMaps
import Tickscript.Proofs.LayeredGrammar
import Tickscript.Proofs.LayeredPrograms
import Tickscript.Proofs.Layout
import Tickscript.Proofs.LeadingComments
import Tickscript.Proofs.LiteralFaults
import Tickscript.Proofs.LiteralTokens
import Tickscript.Proofs.Literals
import Tickscript.Proofs.LoadEffects
import Tickscript.Proofs.LoadPlan
import Tickscript.Proofs.LoadSteps
import Tickscript.Proofs.Lossless
import Tickscript.Proofs.Misreading
import Tickscript.Proofs.MovedRuns
import Tickscript.Proofs.NumberLiterals
import Tickscript.Proofs.Origins
import Tickscript.Proofs.PairCounts
import Tickscript.Proofs.Parentheses
import Tickscript.Proofs.ParsedTrees
import Tickscript.Proofs.Pieces
import Tickscript.Proofs.Positions
import Tickscript.Proofs.PrecedenceClimbing
import Tickscript.Proofs.Pushes
import Tickscript.Proofs.Reader
import Tickscript.Proofs.RegexPlaces
import Tickscript.Proofs.Relexing
import Tickscript.Proofs.Reloading
import Tickscript.Proofs.Representation
import Tickscript.Proofs.RereadPrograms
import Tickscript.Proofs.Rereading
import Tickscript.Proofs.Rescanning
import Tickscript.Proofs.Respacing
import Tickscript.Proofs.RoundTrip
import Tickscript.Proofs.Rounding
import Tickscript.Proofs.RunningTasks
import Tickscript.Proofs.Scanning
import Tickscript.Proofs.ScriptTasks
import Tickscript.Proofs.ShortestDecimal
import Tickscript.Proofs.SourceOrder
import Tickscript.Proofs.Stalls
import Tickscript.Proofs.StoreHistory
import Tickscript.Proofs.Traces
import Tickscript.Proofs.TreeHeight
import Tickscript.Proofs.ValidPrefix
import Tickscript.Proofs.WellFormed
import Tickscript.Proofs.WireRoundTrip
import Tickscript.Resource
import Tickscript.Resource.Codec
import Tickscript.Service
import Tickscript.Service.Guarded
import Tickscript.Service.Store
import Tickscript.Text.Blank
import Tickscript.Text.ByteSequence
import Tickscript.Text.CharSet
import Tickscript.Text.Concealed
import Tickscript.Text.Digits
import Tickscript.Text.Letter
import Tickscript.Text.Quoted
import Tickscript.Text.Range
import Tickscript.Text.Word
import Tickscript.Token
import Tickscript.Token.Cursor
import Tickscript.Token.Lexer
import Tickscript.Token.Trivia
import Tickscript.VarType
import Tickscript.Wire.Format
import Tickscript.Wire.Json
import Tickscript.Wire.Pretty
import Tickscript.Wire.Value
import Tickscript.Wire.Yaml
import Tickscript.Wire.Yaml.Node
import Tickscript.Wire.Yaml.Scalar
import Tickscript.Wire.Yaml.Token
