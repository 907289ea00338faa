import CssInline.Placeholder.Piece
import CssInline.Expression

/-! Interpolations in the place of their placeholders. -/

namespace CssInline.Placeholder

open Code

/-- The interpolation that an identifier stands for. -/
def holeFor? (stem : List Char) (holes : List Tree) (id : String) : Option Tree :=
  (index? stem id.toList).bind fun index => holes[index]?.map guarded

/-! Strings -/

/-- A string literal that is written from its value. -/
def literalOf (value : List Char) : Tree :=
  .leaf (.string (String.ofList value) none)

def operandOf (holes : List Tree) : Piece → Tree
  | .text value => literalOf value
  | .hole id => guarded (holes[id]?.getD .absent)

def plus (left right : Tree) : Tree :=
  .node (.binary "+") [left, right]

/-- The sum of the pieces. The first operand is a string, so that the sum is one. -/
def sumOf (holes : List Tree) : List Piece → Tree
  | .text value :: pieces => (pieces.map (operandOf holes)).foldl plus (literalOf value)
  | pieces => (pieces.map (operandOf holes)).foldl plus (literalOf [])

/-- The sum that stands for a string with placeholders in it. -/
def sum? (stem : List Char) (holes : List Tree) (value : String) : Option Tree :=
  let pieces := split stem holes.length value.toList
  if pieces.any Piece.isHole then some (sumOf holes pieces) else none

/-! Code -/

def computed (tree : Tree) : Tree :=
  .node .computed [tree]

/-- What takes the place of a node with this form, if a placeholder is in it. -/
def replacement? (stem : List Char) (holes : List Tree) : Form → Option Tree
  | .name id => holeFor? stem holes id
  | .string value _ => (sum? stem holes value).map .paren
  | .shorthand id =>
    (holeFor? stem holes id).map fun hole => .node .pair [computed hole, hole]
  | .keyName id => (holeFor? stem holes id).map computed
  | .keyString value _ => (sum? stem holes value).map computed
  | .memberName id => (holeFor? stem holes id).map computed
  | _ => none

mutual

def fill (stem : List Char) (holes : List Tree) : Tree → Tree
  | .node form parts =>
    match replacement? stem holes form with
    | some tree => tree
    | none => .node form (fillAll stem holes parts)

def fillAll (stem : List Char) (holes : List Tree) : List Tree → List Tree
  | [] => []
  | tree :: trees => fill stem holes tree :: fillAll stem holes trees

end

theorem fill_of_some {stem : List Char} {holes : List Tree} {form : Form} {tree : Tree}
    (found : replacement? stem holes form = some tree) (parts : List Tree) :
    fill stem holes (.node form parts) = tree := by
  rw [fill, found]

theorem fill_of_none {stem : List Char} {holes : List Tree} {form : Form}
    (missing : replacement? stem holes form = none) (parts : List Tree) :
    fill stem holes (.node form parts) = .node form (fillAll stem holes parts) := by
  rw [fill, missing]

theorem fillAll_eq_map (stem : List Char) (holes trees : List Tree) :
    fillAll stem holes trees = trees.map (fill stem holes) := by
  induction trees with
  | nil => rfl
  | cons tree trees ih => rw [fillAll, ih, List.map_cons]

/-- The expression with `holes` in the place of their placeholders. What is put in is not searched
again. -/
def substitute (stem : List Char) (holes : List Tree) (tree : Tree) : Tree :=
  if stem.isEmpty || holes.isEmpty then tree else fill stem holes tree

@[simp] theorem substitute_nil_stem (holes : List Tree) (tree : Tree) :
    substitute [] holes tree = tree := rfl

@[simp] theorem substitute_nil_holes (stem : List Char) (tree : Tree) :
    substitute stem [] tree = tree := by
  simp [substitute]

end CssInline.Placeholder
