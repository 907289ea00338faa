import CssInline.Loader
import CssInline.Processor

/-! What ends the compilation of a file. -/

namespace CssInline

/-- Why compiled text is not one expression. Each holds the text. -/
inductive ExpressionError where
  /-- It is not code at all. -/
  | unreadable (source : String)
  /-- Something follows the expression. -/
  | trailingCode (source : String)
  /-- It closes the parentheses that it was put in. -/
  | unwrapped (source : String)
deriving DecidableEq

def ExpressionError.text : ExpressionError → String
  | .unreadable source => "failed to parse `" ++ source ++ "` as an expression"
  | .trailingCode source =>
    "expected a single expression in `" ++ source ++ "`, found trailing code"
  | .unwrapped source => "expected a single expression in `" ++ source ++ "`, got"

inductive Failure where
  | noExtensions
  | load (path : String) (cause : LoadError)
  | process (cause : ProcessError)
  /-- The file itself is not code. -/
  | parse (filename : String)
  | expression (cause : ExpressionError)
deriving DecidableEq

def Failure.text : Failure → String
  | .noExtensions => "invalid extension matcher: at least one extension is required"
  | .load path cause => "failed to load `" ++ path ++ "`: " ++ cause.text
  | .process cause => cause.text
  | .parse filename => "failed to parse `" ++ filename ++ "`"
  | .expression cause => "generated code is not a valid expression: " ++ cause.text

end CssInline
