import CssInline.Code.Grammar.Type

/-! Patterns that declare names, and parameters. -/

namespace CssInline.Code.Grammar

open Reader

def stringKey (lexeme : StringLexeme) : Tree :=
  .leaf (.keyString lexeme.value (some lexeme.raw))

def propertyKey (rules : Rules) (within : Within) : Reader Tree := do
  if ← atQuote then return stringKey (← string within)
  if ← atDigit then return .leaf (.keyNumber (← number within.octal))
  if ← accept "[" then
    let key ← rules .assignment within.bracketed
    expect "]"
    return .node .computed [key]
  return .leaf (.keyName (← anyWord).text)

def withDefault (rules : Rules) (within : Within) (pattern : Reader Tree) : Reader Tree := do
  let pattern ← pattern
  if ← accept "=" then
    return .node .defaulted [pattern, ← rules .assignment within.bracketed]
  return pattern

def restPattern (rules : Rules) (within : Within) : Reader Tree := do
  expect "..."
  return .node .rest [← rules .binding within]

/-- Elements of a list pattern. What collects the rest stands last. -/
def arrayPatternStep (rules : Rules) (within : Within) (done : List Tree) :
    Reader (List Tree ⊕ List Tree) := do
  if ← accept "]" then return .inr done.reverse
  if ← accept "," then return .inl (.leaf .elision :: done)
  if ← atMark "..." then
    let tree ← restPattern rules within
    expect "]"
    return .inr (tree :: done).reverse
  let tree ← withDefault rules within (rules .binding within)
  if ← accept "," then return .inl (tree :: done)
  expect "]"
  return .inr (tree :: done).reverse

def shorthandPattern (rules : Rules) (within : Within) : Reader Tree := do
  let id ← declaredName within
  if ← accept "=" then
    return .node (.patternShorthand id) [← rules .assignment within.bracketed]
  return .leaf (.patternShorthand id)

def propertyPattern (rules : Rules) (within : Within) : Reader Tree := do
  let keyed ← attempt (do
    let key ← propertyKey rules within
    expect ":"
    return key)
  match keyed with
  | some key =>
    return .node .patternPair [key, ← withDefault rules within (rules .binding within)]
  | none => shorthandPattern rules within

def objectPatternStep (rules : Rules) (within : Within) (done : List Tree) :
    Reader (List Tree ⊕ List Tree) := do
  if ← accept "\x7d" then return .inr done.reverse
  if ← atMark "..." then
    expect "..."
    let id ← declaredName within
    expect "\x7d"
    return .inr (.node .rest [.leaf (.binding id)] :: done).reverse
  let tree ← propertyPattern rules within
  if ← accept "," then return .inl (tree :: done)
  expect "\x7d"
  return .inr (tree :: done).reverse

def binding (rules : Rules) (within : Within) : Reader Tree := do
  if ← accept "[" then
    return .node .arrayPattern (← iterate (arrayPatternStep rules within) [])
  if ← accept "\x7b" then
    return .node .objectPattern (← iterate (objectPatternStep rules within) [])
  return .leaf (.binding (← declaredName within))

def typedBinding (rules : Rules) (within : Within) : Reader Tree := do
  let pattern ← rules .binding within
  let type ← annotation? rules within
  return if type.isAbsent then pattern else .node (.annotated false) [pattern, type]

/-! Parameters -/

def parameterModifiers : List String :=
  ["public", "private", "protected", "readonly", "override"]

def parameterWords : Reader String :=
  iterate (fun (words : String) => do
    let word ← attempt (do
      let word ← ofOption (← keyword?)
      require (parameterModifiers.contains word)
      pass word.length
      require ((← word?).isSome)
      return word)
    match word with
    | some word => return .inl (words ++ word ++ " ")
    | none => return .inr words) ""

/-- The receiver of a method, whose type may be written like that of a parameter. -/
def receiver (within : Within) : Reader Tree := do
  require within.types
  expectWord "this"
  return .leaf (.binding "this")

def parameterTarget (rules : Rules) (within : Within) : Reader Tree := do
  let pattern ←
    if let some tree ← attempt (receiver within) then pure tree else rules .binding within
  let isOptional ← onlyIf within.types (accept "?")
  let type ← annotation? rules within
  return if type.isAbsent && !isOptional then pattern
    else .node (.annotated isOptional) [pattern, type]

def parameter (rules : Rules) (within : Within) : Reader Tree := do
  let words ← if within.types then parameterWords else pure ""
  let tree ← withDefault rules within (parameterTarget rules within)
  return if words.isEmpty then tree else .node (.modified words) [tree]

def parameterStep (rules : Rules) (within : Within) (done : List Tree) :
    Reader (List Tree ⊕ List Tree) := do
  if ← accept ")" then return .inr done.reverse
  if ← accept "..." then
    let tree ← rules .binding within
    let type ← annotation? rules within
    let tree := Tree.node .rest [tree]
    expect ")"
    return .inr
      ((if type.isAbsent then tree else .node (.annotated false) [tree, type]) :: done).reverse
  let tree ← parameter rules within
  if ← accept "," then return .inl (tree :: done)
  expect ")"
  return .inr (tree :: done).reverse

def parameters (rules : Rules) (within : Within) : Reader Tree := do
  expect "("
  return .node .parameters (← iterate (parameterStep rules within) [])

end CssInline.Code.Grammar
