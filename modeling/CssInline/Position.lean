import CssInline.Text.Blank
import CssInline.Text.Lines

/-! Places in a source text, and the place reported for a failing template. -/

namespace CssInline

/-- Lines count from one and columns from zero. -/
structure Position where
  line : Nat
  column : Nat
deriving DecidableEq

/-- The width of the indentation of the first line that is not blank. A tab is one column. -/
def firstIndent (text : List Char) : Nat :=
  match (Text.lines text).find? fun line => !(Text.trim line).isEmpty with
  | some line => (line.takeWhile Text.isBlank).length
  | none => 0

def startsWithBreak (text : List Char) : Bool :=
  (text.takeWhile Text.isBlank).contains '\n'

/-- Where to report a failure in a template that starts on `startLine`. A line feed right after
the opening mark counts as the template's first line, so the report moves up by one. -/
def templatePosition (text : List Char) (startLine : Nat) : Position where
  line := if startsWithBreak text then startLine - 1 else startLine
  column := firstIndent text

end CssInline
