import CssInline.Code.Grammar.Expression

/-! Statements. -/

namespace CssInline.Code.Grammar

open Reader

def withComments (reader : Reader Tree) : Reader Tree := do
  let comments := (← here).comments
  let tree ← reader
  return if comments.isEmpty then tree else .node (.commented comments) [tree]

/-! Variables -/

def isPattern (tree : Tree) : Bool :=
  match tree.form with
  | .arrayPattern | .objectPattern => true
  | _ => false

/-- What is declared, without its type. -/
def declaredPattern (tree : Tree) : Tree :=
  match tree with
  | .node (.annotated _) (pattern :: _) => pattern
  | tree => tree

/-- Whether the declaration of a constant or of the names in a pattern lacks its value. -/
def lacksValue (keyword : String) (declarator : Tree) : Bool :=
  match declarator.parts with
  | [target, value] => value.isAbsent && (keyword == "const" || isPattern (declaredPattern target))
  | _ => false

def declarator (rules : Rules) (within : Within) : Reader Tree := do
  let pattern ← rules .binding within
  let isDefinite ← onlyIf within.types (accept "!")
  let type ← annotation? rules within
  require (!isDefinite || !type.isAbsent)
  let target := if type.isAbsent then pattern else .node (.annotated false) [pattern, type]
  let value ← if ← accept "=" then rules .assignment within else pure .absent
  return .node .declarator [target, value]

def declarators (rules : Rules) (within : Within) (keyword : String) : Reader Tree := do
  expectWord keyword
  return .node (.variables keyword) (← separated "," (declarator rules within))

def hasValues (tree : Tree) : Bool :=
  match tree.form with
  | .variables keyword => tree.parts.all fun part => !lacksValue keyword part
  | _ => true

def variableStatement (rules : Rules) (within : Within) (keyword : String) : Reader Tree := do
  let tree ← declarators rules within keyword
  require (within.ambient || hasValues tree)
  semicolon
  return .node .variableStatement [tree]

/-- The word `let` is a keyword where a pattern follows it. -/
def atLet : Reader Bool := do
  let found ← ahead (do
    expectWord "let"
    let word ← word?
    require ((← atMark "[") || (← atMark "\x7b") ||
      word.any fun word => !(["in", "instanceof", "of"].contains word.text)))
  return found.isSome

def variableKeyword? : Reader (Option String) := do
  if ← atLet then return some "let"
  match ← keyword? with
  | some "var" => return some "var"
  | some "const" => return some "const"
  | _ => return none

/-! Simple statements -/

def block (rules : Rules) (within : Within) : Reader Tree := do
  expect "\x7b"
  return .node .block (← listUntil "\x7d" (rules .item within))

def condition (rules : Rules) (within : Within) : Reader Tree := do
  expect "("
  let tree ← rules .expression within
  expect ")"
  return tree

def expressionStatement (rules : Rules) (within : Within) : Reader Tree := do
  let tree ← rules .expression within
  semicolon
  return .node .expressionStatement [tree]

def atStatementEnd : Reader Bool := do
  return (← atEnd) || (← afterBreak) || (← atMark ";") || (← atMark "\x7d")

def returnStatement (rules : Rules) (within : Within) : Reader Tree := do
  expectWord "return"
  require within.inFunction
  let value ← if ← atStatementEnd then pure .absent else rules .expression within
  semicolon
  return .node .returnStatement [value]

def throwStatement (rules : Rules) (within : Within) : Reader Tree := do
  expectWord "throw"
  require (!(← afterBreak))
  let value ← rules .expression within
  semicolon
  return .node .throwStatement [value]

/-- A jump out of what is around it, perhaps to a label there. -/
def jump (within : Within) (keyword : String) (isAllowed : Bool) : Reader (Option String) := do
  expectWord keyword
  require isAllowed
  let label ←
    if !(← afterBreak) && (← atVariableName within) then some <$> variableName within
    else pure none
  require (label.all within.labels.contains)
  semicolon
  return label

/-! Branches -/

def ifStatement (rules : Rules) (within : Within) : Reader Tree := do
  expectWord "if"
  let test ← condition rules within
  let consequent ← rules .statement within
  let alternative ←
    if ← acceptWord "else" then rules .statement within else pure .absent
  return .node .ifStatement [test, consequent, alternative]

def atCaseEnd : Reader Bool := do
  return (← atMark "\x7d") || (← atWord "case") || (← atWord "default")

def caseClause (rules : Rules) (within : Within) : Reader Tree := do
  let test ←
    if ← acceptWord "default" then pure .absent
    else
      expectWord "case"
      rules .expression within
  expect ":"
  let statements ← iterate (fun done => do
    if ← atCaseEnd then return .inr done.reverse
    return .inl ((← rules .item within) :: done)) []
  return .node .caseClause (test :: statements)

def isDefault (clause : Tree) : Bool :=
  clause.parts.head?.any Tree.isAbsent

def switchStatement (rules : Rules) (within : Within) : Reader Tree := do
  expectWord "switch"
  let subject ← condition rules within
  expect "\x7b"
  let cases ← listUntil "\x7d" (caseClause rules { within with breakable := true })
  require (cases.countP isDefault ≤ 1)
  return .node .switchStatement (subject :: cases)

def catchClause (rules : Rules) (within : Within) : Reader Tree := do
  let parameter ←
    if ← accept "(" then
      let tree ← typedBinding rules within
      expect ")"
      pure tree
    else pure .absent
  return .node .catchClause [parameter, ← block rules within]

def tryStatement (rules : Rules) (within : Within) : Reader Tree := do
  expectWord "try"
  let body ← block rules within
  let handler ← if ← acceptWord "catch" then catchClause rules within else pure .absent
  let finalizer ← if ← acceptWord "finally" then block rules within else pure .absent
  require (!handler.isAbsent || !finalizer.isAbsent)
  return .node .tryStatement [body, handler, finalizer]

/-! Loops -/

def whileLoop (rules : Rules) (within : Within) : Reader Tree := do
  expectWord "while"
  let test ← condition rules within
  return .node .whileLoop [test, ← rules .statement within.loop]

def doWhile (rules : Rules) (within : Within) : Reader Tree := do
  expectWord "do"
  let body ← rules .statement within.loop
  expectWord "while"
  let test ← condition rules within
  let _ ← accept ";"
  return .node .doWhile [test, body]

def loopHead (rules : Rules) (within : Within) : Reader Tree := do
  let within := { within with allowIn := false }
  if ← atMark ";" then return .absent
  match ← variableKeyword? with
  | some keyword => declarators rules within keyword
  | none => rules .expression within

/-- The head as what a loop assigns in turn: one variable without a value, or a target. -/
def loopTarget? (within : Within) (head : Tree) : Option Tree :=
  match head with
  | .node (.variables _) [.node .declarator [_, value]] =>
    if value.isAbsent then some head else none
  | .node (.variables _) _ => none
  | head => target? within.strict head

def loopBody (rules : Rules) (within : Within) : Reader Tree := do
  expect ")"
  rules .statement within.loop

def forOf (rules : Rules) (within : Within) (isAwait : Bool) (head : Tree) : Reader Tree := do
  let target ← ofOption (loopTarget? within head)
  let values ← rules .assignment within
  return .node (.forOf isAwait) [target, values, ← loopBody rules within]

def forIn (rules : Rules) (within : Within) (head : Tree) : Reader Tree := do
  let target ← ofOption (loopTarget? within head)
  let object ← rules .expression within
  return .node .forIn [target, object, ← loopBody rules within]

def optionalUntil (rules : Rules) (within : Within) (closing : String) : Reader Tree := do
  if ← atMark closing then return .absent else rules .expression within

def forLoop (rules : Rules) (within : Within) (head : Tree) : Reader Tree := do
  require (hasValues head)
  expect ";"
  let test ← optionalUntil rules within ";"
  expect ";"
  let update ← optionalUntil rules within ")"
  return .node .forLoop [head, test, update, ← loopBody rules within]

def forStatement (rules : Rules) (within : Within) : Reader Tree := do
  expectWord "for"
  let isAwait ← onlyIf within.awaits (acceptWord "await")
  expect "("
  let head ← loopHead rules within
  if ← onlyIf (!head.isAbsent) (acceptWord "of") then return ← forOf rules within isAwait head
  require (!isAwait)
  if ← onlyIf (!head.isAbsent) (acceptWord "in") then return ← forIn rules within head
  forLoop rules within head

/-! All statements -/

def withStatement (rules : Rules) (within : Within) : Reader Tree := do
  expectWord "with"
  require (!within.strict)
  let object ← condition rules within
  return .node .withStatement [object, ← rules .statement within]

def label? (within : Within) : Reader (Option String) :=
  attempt (do
    let id ← variableName within
    expect ":"
    return id)

def labeled (rules : Rules) (within : Within) (label : String) : Reader Tree := do
  require (!within.labels.contains label)
  let inside := { within with labels := label :: within.labels, breakable := true }
  return .node (.labeled label) [← rules .statement inside]

def emptyStatement : Reader Tree := do
  expect ";"
  return .leaf .emptyStatement

def debugger : Reader Tree := do
  expectWord "debugger"
  semicolon
  return .leaf .debugger

/-- A statement that starts with `word`, as far as the word decides about it. -/
def keywordStatement? (rules : Rules) (within : Within) (word : String) : Option (Reader Tree) :=
  match word with
  | "var" => some (variableStatement rules within "var")
  | "if" => some (ifStatement rules within)
  | "for" => some (forStatement rules within)
  | "while" => some (whileLoop rules within)
  | "do" => some (doWhile rules within)
  | "switch" => some (switchStatement rules within)
  | "try" => some (tryStatement rules within)
  | "return" => some (returnStatement rules within)
  | "throw" => some (throwStatement rules within)
  | "with" => some (withStatement rules within)
  | "debugger" => some debugger
  | "break" =>
    some (do return .leaf (.breakStatement (← jump within "break" within.breakable)))
  | "continue" =>
    some (do return .leaf (.continueStatement (← jump within "continue" within.continuable)))
  | _ => none

/-- A statement that declares nothing but variables for its whole function. -/
def plainStatement (rules : Rules) (within : Within) : Reader Tree := do
  if ← atMark "\x7b" then return ← block rules within
  if ← atMark ";" then return ← emptyStatement
  if let some word ← keyword? then
    if let some reader := keywordStatement? rules within word then return ← reader
    require (!(["const", "class", "function"].contains word || (← atAsyncFunction)))
  if let some label ← label? within then return ← labeled rules within label
  expressionStatement rules within

def statement (rules : Rules) (within : Within) : Reader Tree :=
  withComments (plainStatement rules within)

end CssInline.Code.Grammar
