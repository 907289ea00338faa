import CssInline.Position
import CssInline.Text.Bytes
import CssInline.Text.Decimal

/-! A message with the source line it is about and a caret under the place. -/

namespace CssInline

structure Report where
  message : String
  source : String
  filename : String := "input"
  position : Option Position := none
  help : Option String := none

namespace Report

def tabWidth : Nat := 4

/-- The longest line shown whole. -/
def lineLimit : Nat := 80

/-- How much of a longer line is shown on each side of the caret. -/
def contextWidth : Nat := 30

/-- What is shown of a source line, and how far the caret stands from its start. -/
structure Excerpt where
  text : List Char
  caret : Nat
deriving DecidableEq

def expandTabs (line : List Char) : List Char :=
  line.flatMap fun c => if c = '\t' then List.replicate tabWidth ' ' else [c]

/-- The columns that `text` takes once its tabs are expanded. -/
def visualWidth (text : List Char) : Nat :=
  (expandTabs text).length

/-- The size in bytes of the blanks that open `text`. -/
def indentBytes (text : List Char) : Nat :=
  Text.byteLength (text.takeWhile Text.isBlank)

/-- The part of `text` around `column`, with dots where something is left out. -/
def window (text : List Char) (column : Nat) : Excerpt :=
  let start := min (column - contextWidth) text.length
  let stop := min (column + contextWidth) text.length
  let before := if 0 < start then ['.', '.', '.'] else []
  let after := if stop < text.length then ['.', '.', '.'] else []
  { text := before ++ (text.take stop).drop start ++ after
    caret := column - start + before.length }

def excerpt (line : List Char) (column : Nat) : Excerpt :=
  let expanded := expandTabs line
  let shown := Text.trim expanded
  let caret := visualWidth (line.take column) - indentBytes expanded
  if shown.length ≤ lineLimit then { text := shown, caret } else window shown caret

def spaces (width : Nat) : String :=
  String.ofList (List.replicate width ' ')

def sourceLine? (source : String) (position : Position) : Option (List Char) :=
  if position.line = 0 then none else (Text.lines source.toList)[position.line - 1]?

def excerptLines (source : String) (position : Position) : String :=
  match sourceLine? source position with
  | none => ""
  | some line =>
    let number := String.ofList (Text.decimal position.line)
    let shown := excerpt line position.column
    number ++ " | " ++ String.ofList shown.text ++ "\n" ++
      spaces number.length ++ " | " ++ spaces shown.caret ++ "^\n"

def place (filename : String) : Option Position → String
  | none => filename
  | some position =>
    filename ++ ":" ++ String.ofList (Text.decimal position.line) ++
      ":" ++ String.ofList (Text.decimal position.column)

def helpLine : Option String → String
  | none => ""
  | some help => "help: " ++ help ++ "\n"

def render (sourceReport : Report) : String :=
  "error: " ++ sourceReport.message ++ "\n" ++
    " --> " ++ place sourceReport.filename sourceReport.position ++ "\n" ++
    (sourceReport.position.elim "" (excerptLines sourceReport.source)) ++
    helpLine sourceReport.help

end Report

end CssInline
