import CssInline.Code.Cursor
import CssInline.Code.Grammar.Basic
import CssInline.Code.Grammar.Declaration
import CssInline.Code.Grammar.Expression
import CssInline.Code.Grammar.Function
import CssInline.Code.Grammar.Markup
import CssInline.Code.Grammar.Member
import CssInline.Code.Grammar.Module
import CssInline.Code.Grammar.Pattern
import CssInline.Code.Grammar.Primary
import CssInline.Code.Grammar.Statement
import CssInline.Code.Grammar.Type
import CssInline.Code.Layout
import CssInline.Code.Lexeme
import CssInline.Code.Literal
import CssInline.Code.Operator
import CssInline.Code.Printer
import CssInline.Code.Program
import CssInline.Code.Target
import CssInline.Code.Tree
import CssInline.Compile
import CssInline.Config
import CssInline.Config.Matcher
import CssInline.Config.Slot
import CssInline.Diagnostic
import CssInline.Diagnostic.Report
import CssInline.Event
import CssInline.Expression
import CssInline.Failure
import CssInline.Inline
import CssInline.Loader
import CssInline.Loader.Files
import CssInline.Loader.Path
import CssInline.Options
import CssInline.Options.Json
import CssInline.Options.Scalar
import CssInline.Placeholder
import CssInline.Placeholder.Exposure
import CssInline.Placeholder.Piece
import CssInline.Placeholder.Substitution
import CssInline.Position
import CssInline.Processor
import CssInline.Processor.Rules
import CssInline.Run
import CssInline.Session
import CssInline.Site
import CssInline.Text.Alphanumeric
import CssInline.Text.Blank
import CssInline.Text.Bytes
import CssInline.Text.Decimal
import CssInline.Text.Hex
import CssInline.Text.Identifier
import CssInline.Text.JsonString
import CssInline.Text.Lines
import CssInline.Text.Quoted
import CssInline.Text.Range
import CssInline.Text.Search
import CssInline.Text.Shortest
import CssInline.Proofs.Text
import CssInline.Proofs.Placeholder
import CssInline.Proofs.Naming
import CssInline.Proofs.Codec
import CssInline.Proofs.Splitting
import CssInline.Proofs.Concatenation
import CssInline.Proofs.SumValue
import CssInline.Proofs.JsonString
import CssInline.Proofs.JsonExpression
import CssInline.Proofs.Placed
import CssInline.Proofs.Grammar.Basic
import CssInline.Proofs.Grammar.Member
import CssInline.Proofs.Grammar.Primary
import CssInline.Proofs.Grammar.Expression
import CssInline.Proofs.Grammar.Statement
import CssInline.Proofs.Grammar.Module
import CssInline.Proofs.Grammar.Item
import CssInline.Proofs.Program
import CssInline.Proofs.Walk
import CssInline.Proofs.Event
import CssInline.Proofs.FailStop
import CssInline.Proofs.Strictness
import CssInline.Proofs.Tolerance
import CssInline.Proofs.Written
import CssInline.Proofs.RoundTrip
import CssInline.Proofs.Untouched
import CssInline.Proofs.Reports
import CssInline.Proofs.Lines
import CssInline.Proofs.ReportedLine
import CssInline.Proofs.Indentation
import CssInline.Proofs.Caret
import CssInline.Proofs.Window
import CssInline.Proofs.Collision
import CssInline.Proofs.Generated
import CssInline.Proofs.Requests
import CssInline.Proofs.Loads
import CssInline.Proofs.Items
import CssInline.Proofs.Substitution
import CssInline.Proofs.Filled
import CssInline.Proofs.Exposure.Step
import CssInline.Proofs.Exposure.Sweep
import CssInline.Proofs.Exposure.Nesting
import CssInline.Proofs.Exposed
import CssInline.Proofs.Exposure.Insertion
import CssInline.Proofs.Exposure.Repetition
import CssInline.Proofs.Exposure.Literal
import CssInline.Proofs.Woven
import CssInline.Proofs.Token
import CssInline.Proofs.Opening.Text
import CssInline.Proofs.Opening.Operand
import CssInline.Proofs.Opening.Expression
import CssInline.Proofs.Opening.Statement
import CssInline.Proofs.Landing
import CssInline.Proofs.Grouping.Replacement
import CssInline.Proofs.Grouping.Substitution
import CssInline.Proofs.Enclosed.Lexeme
import CssInline.Proofs.Enclosed.Literal
import CssInline.Proofs.Enclosed.Cursor
import CssInline.Proofs.Enclosed.Reader
import CssInline.Proofs.Enclosed.Token
import CssInline.Proofs.Enclosed.Basic
import CssInline.Proofs.Enclosed.Function
import CssInline.Proofs.Enclosed.Member
import CssInline.Proofs.Enclosed.Primary
import CssInline.Proofs.Enclosed.Expression
import CssInline.Proofs.Enclosed.Statement
import CssInline.Proofs.Enclosed.Rules
import CssInline.Proofs.Enclosed.Operand
import CssInline.Proofs.Enclosed.Pattern
import CssInline.Proofs.Enclosed.Group
import CssInline.Proofs.Accepted
import CssInline.Proofs.Matching
import CssInline.Proofs.FirstSuccess
