import CssInline.Code.Lexeme

/-! What all rules of the grammar share. A rule gets the rules for smaller pieces of code as an
argument, so that no rule refers to itself. -/

namespace CssInline.Code.Grammar

/-- Where a piece of code stands, as far as that decides how it is read. -/
structure Within where
  /-- Types may be written. -/
  types : Bool
  /-- Elements may be written. -/
  markup : Bool
  isModule : Bool
  strict : Bool
  inFunction : Bool := false
  /-- `new.target` has a meaning. -/
  hasTarget : Bool := false
  /-- `super` has a meaning. -/
  inMethod : Bool := false
  isAsync : Bool := false
  isGenerator : Bool := false
  allowIn : Bool := true
  breakable : Bool := false
  continuable : Bool := false
  labels : List String := []
  /-- Values are declared but not defined. -/
  ambient : Bool := false

namespace Within

/-- Inside of a function. -/
def function (within : Within) (isAsync isGenerator : Bool) : Within :=
  { within with
    inFunction := true, hasTarget := true, inMethod := false, isAsync, isGenerator
    allowIn := true, breakable := false, continuable := false, labels := [] }

/-- Inside of a member of an object or a class. -/
def method (within : Within) (isAsync isGenerator : Bool) : Within :=
  { within.function isAsync isGenerator with inMethod := true }

/-- Inside of an arrow function, which has no `new.target` and no `super` of its own. -/
def arrow (within : Within) (isAsync : Bool) : Within :=
  { within.function isAsync false with
    hasTarget := within.hasTarget, inMethod := within.inMethod, allowIn := within.allowIn }

def loop (within : Within) : Within :=
  { within with breakable := true, continuable := true }

/-- Inside of brackets the word `in` is an operator. -/
def bracketed (within : Within) : Within :=
  { within with allowIn := true }

/-- Whether `await` is an operator. -/
def awaits (within : Within) : Bool :=
  within.isAsync || (within.isModule && !within.inFunction)

end Within

inductive Goal where
  | item
  | statement
  | expression
  | assignment
  | unary
  /-- A member access or a call, and what it starts with. -/
  | operand
  /-- An operand without calls. -/
  | callee
  | binding
  | type
  | element
deriving DecidableEq

/-- The readers of smaller pieces. -/
abbrev Rules := Goal → Within → Reader Tree

open Reader

/-- Items up to the closing mark, with commas between them. A comma may also follow the last. -/
def commaListStep (closing : String) (item : Reader Tree) (done : List Tree) :
    Reader (List Tree ⊕ List Tree) := do
  if ← accept closing then return .inr done.reverse
  let tree ← item
  if ← accept "," then return .inl (tree :: done)
  expect closing
  return .inr (tree :: done).reverse

def commaList (closing : String) (item : Reader Tree) : Reader (List Tree) :=
  iterate (commaListStep closing item) []

def separated (mark : String) (item : Reader Tree) : Reader (List Tree) :=
  iterate (fun done => do
    let tree ← item
    if ← accept mark then return .inl (tree :: done) else return .inr (tree :: done).reverse) []

def listUntil (closing : String) (item : Reader Tree) : Reader (List Tree) :=
  iterate (fun done => do
    if ← accept closing then return .inr done.reverse
    return .inl ((← item) :: done)) []

/-- The end of a statement: a semicolon, or a place where one may be left out. -/
def semicolon : Reader Unit := do
  if ← accept ";" then return
  require ((← atMark "\x7d") || (← atEnd) || (← afterBreak))

/-! Names -/

def reservedWords : List String :=
  ["break", "case", "catch", "class", "const", "continue", "debugger", "default", "delete", "do",
    "else", "enum", "export", "extends", "false", "finally", "for", "function", "if", "import",
    "in", "instanceof", "new", "null", "return", "super", "switch", "this", "throw", "true", "try",
    "typeof", "var", "void", "while", "with"]

def strictWords : List String :=
  ["implements", "interface", "let", "package", "private", "protected", "public", "static"]

def isVariableName (within : Within) (id : String) : Bool :=
  !reservedWords.contains id &&
    !(within.strict && strictWords.contains id) &&
    !(id == "yield" && (within.strict || within.isGenerator)) &&
    !(id == "await" && (within.isModule || within.isAsync))

def variableName (within : Within) : Reader String := do
  let word ← anyWord
  require (isVariableName within word.text)
  return word.text

def declaredName (within : Within) : Reader String := do
  let id ← variableName within
  require (!(within.strict && (id == "eval" || id == "arguments")))
  return id

def atVariableName (within : Within) : Reader Bool := do
  match ← word? with
  | some word => return isVariableName within word.text
  | none => return false

def privateName : Reader Tree := do
  expectRaw "#"
  let word ← ofOption (← word?)
  pass word.size
  return .leaf (.privateName word.text)

def atDigit : Reader Bool := do
  let text ← remaining
  return text.head?.any Char.isDigit ||
    (text.head? == some '.' && (text.drop 1).head?.any Char.isDigit)

def atQuote : Reader Bool := do
  return (← remaining).head?.any fun c => c == '"' || c == '\x27'

def atBacktick : Reader Bool := do
  return (← remaining).head? == some '\x60'

/-- Whether legacy octal numbers and escapes are allowed. -/
def Within.octal (within : Within) : Bool :=
  !within.strict

def string (within : Within) : Reader StringLexeme :=
  quotedString within.octal

end CssInline.Code.Grammar
