import CssInline.Code.Grammar.Markup
import CssInline.Code.Grammar.Member

/-! Expressions that stand for themselves, and the accesses and calls that follow them. -/

namespace CssInline.Code.Grammar

open Reader

/-! Templates -/

structure TemplatePieces where
  quasis : List Quasi
  holes : List Tree

def templateStep (rules : Rules) (within : Within) (done : TemplatePieces) :
    Reader (TemplatePieces ⊕ TemplatePieces) := do
  let quasis := (← quasi) :: done.quasis
  if ← atBacktick then
    pass 1
    return .inr ⟨quasis.reverse, done.holes.reverse⟩
  pass 2
  let hole ← rules .expression within.bracketed
  expectRaw "\x7d"
  return .inl ⟨quasis, hole :: done.holes⟩

def templatePieces (rules : Rules) (within : Within) : Reader TemplatePieces := do
  require (← atBacktick)
  advance 1
  iterate (templateStep rules within) ⟨[], []⟩

/-- A template without a tag, where faulty escapes are refused. -/
def template (rules : Rules) (within : Within) : Reader Tree := do
  let parts ← templatePieces rules within
  require (parts.quasis.all fun quasi => quasi.cooked.isSome)
  return .node (.template parts.quasis) parts.holes

/-! Lists and parentheses -/

def argument (rules : Rules) (within : Within) : Reader Tree := do
  if ← accept "..." then return .node .spread [← rules .assignment within.bracketed]
  rules .assignment within.bracketed

def arguments (rules : Rules) (within : Within) : Reader (List Tree) := do
  expect "("
  commaList ")" (argument rules within)

def arrayStep (rules : Rules) (within : Within) (done : List Tree) :
    Reader (List Tree ⊕ List Tree) := do
  if ← accept "]" then return .inr done.reverse
  if ← accept "," then return .inl (.leaf .elision :: done)
  let tree ← argument rules within
  if ← accept "," then return .inl (tree :: done)
  expect "]"
  return .inr (tree :: done).reverse

def array (rules : Rules) (within : Within) : Reader Tree := do
  expect "["
  return .node .array (← iterate (arrayStep rules within) [])

def parenthesized (rules : Rules) (within : Within) : Reader Tree := do
  expect "("
  let tree ← rules .expression within.bracketed
  expect ")"
  return .paren tree

def computedName (rules : Rules) (within : Within) : Reader Tree := do
  expect "["
  let key ← rules .expression within.bracketed
  expect "]"
  return .node .computed [key]

/-! Accesses and calls -/

def accessedName : Reader Tree := do
  if ← atMark "#" then return ← privateName
  return .leaf (.memberName (← anyWord).text)

/-- What has been read of a chain of accesses, and how the next step belongs to it. -/
structure Access where
  tree : Tree
  chain : Chain

namespace Access

def start (tree : Tree) : Access := ⟨tree, .none⟩

def member (access : Access) (property : Tree) : Access :=
  { access with tree := .node (.member access.chain) [access.tree, property] }

def call (access : Access) (types : Tree) (arguments : List Tree) : Access :=
  { access with tree := .node (.call access.chain) (access.tree :: types :: arguments) }

/-- Completes an optional step: those after it only continue the chain. -/
def linked (access : Access) : Access :=
  { access with chain := .link }

end Access

def optionalStep (rules : Rules) (within : Within) (access : Access) : Reader Access := do
  expect "?."
  let access := { access with chain := .optional }
  if ← atMark "(" then return (access.call .absent (← arguments rules within)).linked
  if ← atMark "[" then return (access.member (← computedName rules within)).linked
  return (access.member (← accessedName)).linked

/-- A template with what is before it as its tag. The template belongs to the line on which the
whole access starts. -/
def taggedStep (rules : Rules) (within : Within) (line : Nat) (access : Access) (types : Tree) :
    Reader Access := do
  require (access.chain == .none)
  let parts ← templatePieces rules within
  return { access with
    tree := .node (.tagged line parts.quasis) (access.tree :: types :: parts.holes) }

def callTypes? (rules : Rules) (within : Within) (calls : Bool) : Reader (Option Tree) :=
  attempt (do
    let types ← typeArguments rules within
    require ((← atBacktick) || (calls && (← atMark "(")))
    return typeNode types)

def typedStep (rules : Rules) (within : Within) (line : Nat) (calls : Bool) (access : Access) :
    Reader (Access ⊕ Tree) := do
  match ← callTypes? rules within calls with
  | none => return .inr access.tree
  | some types =>
    if ← atBacktick then return .inl (← taggedStep rules within line access types)
    return .inl (access.call types (← arguments rules within))

def accessStep (rules : Rules) (within : Within) (line : Nat) (calls : Bool) (access : Access) :
    Reader (Access ⊕ Tree) := do
  if ← atBacktick then return .inl (← taggedStep rules within line access .absent)
  match ← mark? with
  | some "." =>
    pass 1
    return .inl (access.member (← accessedName))
  | some "[" => return .inl (access.member (← computedName rules within))
  | some "(" =>
    if calls then return .inl (access.call .absent (← arguments rules within))
    else return .inr access.tree
  | some "?." =>
    require calls
    return .inl (← optionalStep rules within access)
  | some "!" =>
    if within.types && !(← afterBreak) then
      pass 1
      return .inl { access with tree := .node .nonNull [access.tree] }
    else return .inr access.tree
  | some "<" =>
    if within.types then typedStep rules within line calls access else return .inr access.tree
  | _ => return .inr access.tree

/-! Words -/

def superAccess (rules : Rules) (within : Within) : Reader Tree := do
  expectWord "super"
  require (within.inMethod || within.types)
  if ← atMark "(" then
    return .node (.call .none)
      (.leaf .superKeyword :: .absent :: (← arguments rules within))
  if ← atMark "[" then return .node .superMember [← computedName rules within]
  expect "."
  return .node .superMember [.leaf (.fixedName (← anyWord).text)]

def importAccess (rules : Rules) (within : Within) : Reader Tree := do
  expectWord "import"
  if ← accept "." then
    expectWord "meta"
    require within.isModule
    return .leaf (.metaProperty "import.meta")
  let arguments ← arguments rules within
  require (!arguments.isEmpty)
  return .node (.call .none) (.leaf .importKeyword :: .absent :: arguments)

def newExpression (rules : Rules) (within : Within) : Reader Tree := do
  expectWord "new"
  if ← accept "." then
    expectWord "target"
    require within.hasTarget
    return .leaf (.metaProperty "new.target")
  require (!(← atWord "import"))
  let callee ← rules .callee within
  let types ←
    if within.types && (← atMark "<") then callTypes? rules within true else pure none
  if ← atMark "(" then
    return .node (.new true) (callee :: types.getD .absent :: (← arguments rules within))
  return .node (.new false) [callee, types.getD .absent]

def keywordLeaf (keyword : String) (form : Form) : Reader Tree := do
  expectWord keyword
  return .leaf form

def variableTree (within : Within) : Reader Tree := do
  return .name (← variableName within)

def wordExpression (rules : Rules) (within : Within) : Reader Tree := do
  match ← keyword? with
  | some "this" => keywordLeaf "this" .thisKeyword
  | some "null" => keywordLeaf "null" (.literal "null")
  | some "true" => keywordLeaf "true" (.literal "true")
  | some "false" => keywordLeaf "false" (.literal "false")
  | some "function" => functionTree rules within false false
  | some "class" => classTree rules within false
  | some "super" => superAccess rules within
  | some "new" => newExpression rules within
  | some "import" => importAccess rules within
  | some "async" =>
    if ← atAsyncFunction then functionTree rules within false false else variableTree within
  | _ => variableTree within

/-- A private name is an operand only where it is searched in an object. -/
def searchedName : Reader Tree := do
  let tree ← privateName
  require (← atWord "in")
  return tree

def primary (rules : Rules) (within : Within) : Reader Tree := do
  if ← atQuote then
    let lexeme ← string within
    return .leaf (.string lexeme.value (some lexeme.raw))
  if ← atDigit then return .leaf (.literal (← number within.octal))
  if ← atBacktick then return ← template rules within
  match ← mark? with
  | some "(" => parenthesized rules within
  | some "[" => array rules within
  | some "\x7b" => object rules within
  | some "/" | some "/=" => return .leaf (.literal (← regex))
  | some "#" => searchedName
  | some "<" =>
    require within.markup
    let tree ← rules .element within.bracketed
    settle
    return tree
  | _ => wordExpression rules within

def access (rules : Rules) (within : Within) (calls : Bool) : Reader Tree := do
  let line ← lineNumber
  let first ← primary rules within
  iterate (accessStep rules within line calls) (.start first)

end CssInline.Code.Grammar
