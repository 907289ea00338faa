/-! Text as lines. -/

namespace CssInline.Text

/-- Splits at line feeds; a carriage return just before one belongs to it. The last line needs
no line feed, and an empty one is not counted. -/
def lines : List Char → List (List Char)
  | [] => []
  | c :: rest =>
    if c = '\n' then [] :: lines rest
    else if c = '\r' ∧ rest.head? = some '\n' then lines rest
    else
      match lines rest with
      | [] => [[c]]
      | line :: more => (c :: line) :: more

end CssInline.Text
