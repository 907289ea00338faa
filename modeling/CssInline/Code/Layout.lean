/-! Code as it is written out: pieces of text, line breaks and changes of indentation. -/

namespace CssInline.Code

inductive Mark where
  | text (value : String)
  /-- Ends the line, unless it is still empty. -/
  | line
  | deeper
  | shallower
deriving DecidableEq

abbrev Layout := List Mark

namespace Layout

def text (value : String) : Layout := [.text value]

def line : Layout := [.line]

def indented (layout : Layout) : Layout :=
  .deeper :: .line :: layout ++ [.shallower, .line]

def join (separator : Layout) : List Layout → Layout
  | [] => []
  | [layout] => layout
  | layout :: layouts => layout ++ separator ++ join separator layouts

def commas (layouts : List Layout) : Layout :=
  join (text ", ") layouts

def indentation (level : Nat) : String :=
  String.ofList (List.replicate (4 * level) ' ')

/-- Writes the marks from a line of the given level on. Indentation is written with the first
text of a line. -/
def writeFrom (level : Nat) (fresh : Bool) : Layout → String
  | [] => ""
  | .text value :: rest =>
    if value.isEmpty then writeFrom level fresh rest
    else (if fresh then indentation level else "") ++ value ++ writeFrom level false rest
  | .line :: rest => (if fresh then "" else "\n") ++ writeFrom level true rest
  | .deeper :: rest => writeFrom (level + 1) fresh rest
  | .shallower :: rest => writeFrom (level - 1) fresh rest

def write (layout : Layout) : String :=
  writeFrom 0 true layout

end Layout

end CssInline.Code
