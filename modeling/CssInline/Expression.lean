import CssInline.Code.Program
import CssInline.Failure

/-! Compiled text as an expression that can stand in other code. -/

namespace CssInline

open Code

/-- Whether an expression can stand in any place without parentheses. -/
def isAtomic (tree : Tree) : Bool :=
  match tree.form with
  | .name _ | .string _ _ | .literal _ | .thisKeyword | .member .none | .call .none | .paren
  | .array | .template _ | .tagged _ _ => true
  | _ => false

/-- The expression in parentheses, if it needs them. -/
def guarded (tree : Tree) : Tree :=
  if isAtomic tree then tree else .paren tree

/-- The text in parentheses. They stand on lines of their own, since the text may end in a
comment. -/
def enclosed (source : String) : List Char :=
  '(' :: '\n' :: source.toList ++ ['\n', ')']

def parseExpression (source : String) : Except ExpressionError Tree :=
  match (readScript (enclosed source)).map Tree.unplacedAll with
  | none => .error (.unreadable source)
  | some [.node .expressionStatement [.node .paren [tree]]] => .ok (guarded tree)
  | some [.node .expressionStatement _] => .error (.unwrapped source)
  | some _ => .error (.trailingCode source)

theorem parseExpression_of_readScript {source : String} {tree : Tree}
    (read : readScript (enclosed source) =
      some [.node .expressionStatement [.node .paren [tree]]]) :
    parseExpression source = .ok (guarded tree.unplaced) := by
  unfold parseExpression
  rw [read, Option.map_some]
  rfl

end CssInline
