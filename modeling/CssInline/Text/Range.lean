/-! Classes of characters given as ranges of code points. -/

namespace CssInline.Text

/-- A class of characters, as inclusive ranges of code points in ascending order. -/
abbrev Ranges := List (Nat × Nat)

def Ranges.contains (ranges : Ranges) (c : Char) : Bool :=
  ranges.any fun range => range.1 ≤ c.toNat && c.toNat ≤ range.2

end CssInline.Text
