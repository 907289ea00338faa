import CssInline.Code.Grammar.Primary
import CssInline.Code.Operator
import CssInline.Code.Target

/-! Expressions with operators. -/

namespace CssInline.Code.Grammar

open Reader

/-! One operand -/

def unaryOperators : List String :=
  ["+", "-", "!", "~", "typeof", "void", "delete"]

def token? : Reader (Option String) := do
  if let some mark ← mark? then return some mark
  keyword?

def acceptOneOf (tokens : List String) : Reader (Option String) := do
  match ← token? with
  | none => return none
  | some token =>
    if tokens.contains token then
      pass token.length
      return some token
    else return none

/-- Strict code may not delete a variable. -/
def isForbidden (within : Within) (operator : String) (operand : Tree) : Bool :=
  match operand.form with
  | .name _ => within.strict && operator == "delete"
  | _ => false

def postfixed (rules : Rules) (within : Within) : Reader Tree := do
  let operand ← rules .operand within
  if ← afterBreak then return operand
  match ← acceptOneOf ["++", "--"] with
  | none => return operand
  | some operator =>
    require (isReference within.strict operand)
    return .node (.update operator false) [operand]

def unary (rules : Rules) (within : Within) : Reader Tree := do
  if let some operator ← acceptOneOf unaryOperators then
    let operand ← rules .unary within
    require (!isForbidden within operator operand)
    return .node (.unary operator) [operand]
  if let some operator ← acceptOneOf ["++", "--"] then
    let operand ← rules .unary within
    require (isReference within.strict operand)
    return .node (.update operator true) [operand]
  if ← onlyIf within.awaits (acceptWord "await") then return .node .await [← rules .unary within]
  if ← onlyIf (within.types && !within.markup) (accept "<") then
    let type ← rules .type within
    expectAngle
    return .node .assertion [type, ← rules .unary within]
  postfixed rules within

/-! Several operands -/

def nextOperator? (within : Within) : Reader (Option String) := do
  match ← token? with
  | none => return none
  | some token =>
    if token == "in" && !within.allowIn then return none
    return if (precedence? token).isSome then some token else none

def nextCast? (within : Within) : Reader (Option String) := do
  if !within.types || (← afterBreak) then return none
  acceptOneOf ["as", "satisfies"]

def operationStep (rules : Rules) (within : Within) (done : List Operation) :
    Reader (List Operation ⊕ List Operation) := do
  if let some word ← nextCast? within then
    return .inl (.cast word (← rules .type within) :: done)
  match ← nextOperator? within with
  | none => return .inr done.reverse
  | some operator =>
    pass operator.length
    return .inl (.binary operator (← rules .unary within) :: done)

def binary (rules : Rules) (within : Within) : Reader Tree := do
  let first ← rules .unary within
  ofOption (combine? first (← iterate (operationStep rules within) []))

def conditional (rules : Rules) (within : Within) : Reader Tree := do
  let test ← binary rules within
  if !(← accept "?") then return test
  let consequent ← rules .assignment within.bracketed
  expect ":"
  return .node .conditional [test, consequent, ← rules .assignment within]

/-! Assignments -/

def assignmentOperators : List String :=
  ["+=", "-=", "*=", "/=", "%=", "**=", "<<=", ">>=", ">>>=", "&=", "|=", "^=", "&&=", "||=",
    "??="]

/-- Whether what follows `yield` cannot be its value. -/
def atValueEnd : Reader Bool := do
  if (← atEnd) || (← afterBreak) then return true
  return (← mark?).any fun mark => [")", "]", "\x7d", ",", ";", ":"].contains mark

def yieldExpression (rules : Rules) (within : Within) : Reader Tree := do
  expectWord "yield"
  if ← atValueEnd then return .leaf (.yield false)
  let delegates ← accept "*"
  return .node (.yield delegates) [← rules .assignment within]

/-- A value, or the assignment of one to what stands before the operator. -/
def assignmentFrom (rules : Rules) (within : Within) (left : Tree) : Reader Tree := do
  if ← atMark "=" then
    let target ← ofOption (target? within.strict left)
    expect "="
    return .node (.assign "=") [target, ← rules .assignment within]
  match ← acceptOneOf assignmentOperators with
  | none => return left
  | some operator =>
    let target ← ofOption (simpleTarget? within.strict left)
    return .node (.assign operator) [target, ← rules .assignment within]

def assignment (rules : Rules) (within : Within) : Reader Tree := do
  if within.isGenerator && (← atWord "yield") then return ← yieldExpression rules within
  if let some tree ← arrow? rules within then return tree
  assignmentFrom rules within (← conditional rules within)

def expression (rules : Rules) (within : Within) : Reader Tree := do
  match ← separated "," (rules .assignment within) with
  | [tree] => return tree
  | trees => return .node .sequence trees

end CssInline.Code.Grammar
