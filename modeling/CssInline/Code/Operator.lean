import CssInline.Code.Tree

/-! Chains of operators and operands put together by how tightly the operators bind. -/

namespace CssInline.Code

/-- How tightly an operator between two operands binds. -/
def precedence? (operator : String) : Option Nat :=
  match operator with
  | "??" => some 1
  | "||" => some 2
  | "&&" => some 3
  | "|" => some 4
  | "^" => some 5
  | "&" => some 6
  | "==" | "!=" | "===" | "!==" => some 7
  | "<" | ">" | "<=" | ">=" | "instanceof" | "in" => some 8
  | "<<" | ">>" | ">>>" => some 9
  | "+" | "-" => some 10
  | "*" | "/" | "%" => some 11
  | "**" => some 12
  | _ => none

def bindingStrength (operator : String) : Nat :=
  (precedence? operator).getD 0

/-- What follows the first operand of a chain. -/
inductive Operation where
  | binary (operator : String) (operand : Tree)
  /-- A type after a word; binds like a comparison. -/
  | cast (operator : String) (type : Tree)

def Tree.isUnary (tree : Tree) : Bool :=
  match tree.form with
  | .unary _ | .await => true
  | _ => false

def Tree.hasOperator (operators : List String) (tree : Tree) : Bool :=
  match tree.form with
  | .binary operator => operators.contains operator
  | _ => false

/-- Powers of bare unary operations are refused, and so are mixtures of `??` with the other two
logical operators. -/
def isMisused (operator : String) (left right : Tree) : Bool :=
  if operator == "**" then left.isUnary
  else if operator == "??" then
    left.hasOperator ["||", "&&"] || right.hasOperator ["||", "&&"]
  else if operator == "||" || operator == "&&" then
    left.hasOperator ["??"] || right.hasOperator ["??"]
  else false

def binaryNode? (operator : String) (left right : Tree) : Option Tree :=
  if isMisused operator left right then none else some (.node (.binary operator) [left, right])

/-- Completes the pending operations, the innermost first, as long as they bind tightly enough. -/
def complete? (binds : Nat → Bool) :
    List (Tree × String) → Tree → Option (List (Tree × String) × Tree)
  | [], right => some ([], right)
  | (left, operator) :: pending, right =>
    if binds (bindingStrength operator) then do
      complete? binds pending (← binaryNode? operator left right)
    else some ((left, operator) :: pending, right)

/-- Of equal operators the left one binds first, except for powers. -/
def yieldsTo (operator : String) (strength : Nat) : Bool :=
  if operator == "**" then bindingStrength operator < strength
  else bindingStrength operator ≤ strength

def combineFrom? (pending : List (Tree × String)) (last : Tree) : List Operation → Option Tree
  | [] => (complete? (fun _ => true) pending last).map Prod.snd
  | .binary operator operand :: operations => do
    let (pending, left) ← complete? (yieldsTo operator) pending last
    combineFrom? ((left, operator) :: pending) operand operations
  | .cast operator type :: operations => do
    let (pending, left) ← complete? (yieldsTo "in") pending last
    combineFrom? pending (.node (.cast operator) [left, type]) operations

def combine? (first : Tree) (operations : List Operation) : Option Tree :=
  combineFrom? [] first operations

end CssInline.Code
