import CssInline.Position
import CssInline.Text.Decimal

/-! What compiles style source into the text of an expression. -/

namespace CssInline

/-- A failure of a processor, with the place in the styles where it was found. -/
structure ProcessError where
  message : String
  position : Option Position
deriving DecidableEq

def ProcessError.text (failure : ProcessError) : String :=
  match failure.position with
  | none => failure.message
  | some place =>
    failure.message ++ " (" ++ String.ofList (Text.decimal place.line) ++ ":" ++
      String.ofList (Text.decimal place.column) ++ ")"

/-- Given the name of the file that refers to the styles and their source, the text of an
expression. -/
abbrev Processor := (filename : String) → (styles : String) → Except ProcessError String

end CssInline
