import CssInline.Text.Decimal
import CssInline.Text.Search

/-! Identifiers that stand for the interpolations of a template while its text is compiled: a stem
that the file does not contain, and the number of the interpolation. -/

namespace CssInline.Placeholder

def baseStem : List Char := "__css_hole_".toList

/-- Appends underscores until the stem does not occur in `code`. -/
def lengthen (code : List Char) : Nat → List Char → List Char
  | 0, stem => stem
  | fuel + 1, stem => if Text.occurs stem code then lengthen code fuel (stem ++ ['_']) else stem

/-- A stem longer than `code` cannot occur in it, so the search ends. -/
def freshStem (code : List Char) : List Char :=
  lengthen code (code.length + 1) baseStem

def name (stem : List Char) (id : Nat) : List Char :=
  stem ++ Text.decimal id

/-- The numbers that fit a machine word. -/
def idBound : Nat := Nat.pow 2 64

def readId? (digits : List Char) : Option Nat :=
  (Text.readDecimal? digits).filter (· < idBound)

/-- The interpolation that a whole identifier stands for. The empty stem has no placeholders. -/
def index? (stem identifier : List Char) : Option Nat :=
  if stem.isEmpty then none else (Text.strip? stem identifier).bind readId?

/-- The placeholder at the start of `text` with a number below `count`, and what follows it. All
digits after the stem belong to the number. -/
def take? (stem : List Char) (count : Nat) (text : List Char) : Option (Nat × List Char) :=
  (Text.strip? stem text).bind fun rest =>
    ((readId? (rest.takeWhile Char.isDigit)).filter (· < count)).map fun id =>
      (id, rest.dropWhile Char.isDigit)

/-- The texts with the placeholders of the `count` interpolations between them, from number `id`
on. -/
def weaveFrom (stem : List Char) (count : Nat) : Nat → List (List Char) → List Char
  | _, [] => []
  | id, text :: texts =>
    text ++ (if id < count then name stem id else []) ++ weaveFrom stem count (id + 1) texts

def weave (stem : List Char) (count : Nat) (texts : List (List Char)) : List Char :=
  weaveFrom stem count 0 texts

end CssInline.Placeholder
