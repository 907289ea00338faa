import CssInline.Code.Grammar.Function

/-! Members of objects and classes. -/

namespace CssInline.Code.Grammar

open Reader

def keyEnds : List String :=
  ["(", ")", ",", ":", "=", ";", "\x7d", "?", "!", "<"]

def modifier (word : String) : Reader Bool := do
  let found ← attempt (do
    expectWord word
    match ← mark? with
    | some mark => require (!keyEnds.contains mark)
    | none => require (!(← atEnd)))
  return found.isSome

def lineModifier (word : String) : Reader Bool := do
  let found ← attempt (do
    require (← modifier word)
    require (!(← afterBreak)))
  return found.isSome

def parameterCount (callable : Tree) : Nat :=
  match callable.parts with
  | _ :: list :: _ => list.parts.length
  | _ => 0

inductive Accessor where
  | getter
  | setter

def accessor? : Reader (Option Accessor) := do
  if ← modifier "get" then return some .getter
  if ← modifier "set" then return some .setter
  return none

/-- The function of an accessor. A getter takes nothing and a setter one value. -/
def accessorCallable (rules : Rules) (within : Within) (accessor : Accessor) (tight : Bool) :
    Reader Tree := do
  let tree ← callable rules (within.method false false) tight
  match accessor with
  | .getter => require (parameterCount tree = 0)
  | .setter => require (parameterCount tree = 1)
  return tree

/-! Objects -/

/-- A property that is only a name, or a name with a value as a pattern has it. -/
def shorthandProperty (rules : Rules) (within : Within) : Reader Tree := do
  let id ← variableName within
  if ← accept "=" then
    return .node (.initialized id) [← rules .assignment within.bracketed]
  return .leaf (.shorthand id)

def atParameters (within : Within) : Reader Bool := do
  return (← atMark "(") || (within.types && (← atMark "<"))

/-- A key that parameters or a value follow. -/
def leadingKey (rules : Rules) (within : Within) : Reader Tree := do
  let key ← propertyKey rules within
  require ((← atParameters within) || (← atMark ":"))
  return key

/-- A property from what follows its key. -/
def keyedProperty (rules : Rules) (within : Within) (isAsync isGenerator : Bool) (key : Tree) :
    Reader Tree := do
  if ← atParameters within then
    return .node (.method isAsync isGenerator)
      [key, ← callable rules (within.method isAsync isGenerator) false]
  require (!isAsync && !isGenerator)
  expect ":"
  return .node .pair [key, ← rules .assignment within.bracketed]

def accessorProperty (rules : Rules) (within : Within) (accessor : Accessor) : Reader Tree := do
  let key ← propertyKey rules within
  match accessor with
  | .getter => return .node .getter [key, ← accessorCallable rules within .getter false]
  | .setter => return .node .setter [key, ← accessorCallable rules within .setter true]

def property (rules : Rules) (within : Within) : Reader Tree := do
  if ← accept "..." then return .node .spread [← rules .assignment within.bracketed]
  if let some accessor ← accessor? then return ← accessorProperty rules within accessor
  let isAsync ← lineModifier "async"
  let isGenerator ← accept "*"
  match ← attempt (leadingKey rules within) with
  | some key => keyedProperty rules within isAsync isGenerator key
  | none =>
    require (!isAsync && !isGenerator)
    shorthandProperty rules within

def object (rules : Rules) (within : Within) : Reader Tree := do
  expect "\x7b"
  return .node .object (← commaList "\x7d" (property rules within))

/-! Classes -/

def classModifiers : List String :=
  ["public", "private", "protected", "abstract", "override", "readonly", "declare"]

/-- Words before a member, in their order. -/
def memberWords (within : Within) : Reader String :=
  iterate (fun (words : String) => do
    if ← lineModifier "static" then return .inl (words ++ "static ")
    if !within.types then return .inr words
    match ← keyword? with
    | none => return .inr words
    | some word =>
      if ← onlyIf (classModifiers.contains word) (modifier word) then
        return .inl (words ++ word ++ " ")
      else return .inr words) ""

def memberKeyTree (rules : Rules) (within : Within) : Reader Tree := do
  if ← atMark "#" then return ← privateName
  propertyKey rules within

def isConstructorKey (key : Tree) : Bool :=
  match key.form with
  | .keyName id => id == "constructor"
  | .keyString value _ => value == "constructor"
  | _ => false

/-- A field from what follows its key. -/
def fieldFrom (rules : Rules) (within : Within) (words : String) (key : Tree) : Reader Tree := do
  let mark ←
    if ← onlyIf within.types (accept "?") then pure "?"
    else if ← onlyIf within.types (accept "!") then pure "!"
    else pure ""
  let type ← annotation? rules within
  let value ←
    if ← accept "=" then rules .assignment (within.method false false) else pure .absent
  semicolon
  return .node (.classField words mark) [key, type, value]

def accessorMember (rules : Rules) (within : Within) (words : String) (accessor : Accessor) :
    Reader Tree := do
  let key ← memberKeyTree rules within
  let tree ← accessorCallable rules within accessor false
  let word :=
    match accessor with
    | .getter => "get "
    | .setter => "set "
  return .node (.classMethod (words ++ word)) [key, tree]

def keyedMember (rules : Rules) (within : Within) (words : String) : Reader Tree := do
  let isAsync ← lineModifier "async"
  let isGenerator ← accept "*"
  let key ← memberKeyTree rules within
  if !(← atParameters within) then
    require (!isAsync && !isGenerator)
    return ← fieldFrom rules within words key
  let isConstructor :=
    isConstructorKey key && !words.endsWith "static " && !isAsync && !isGenerator
  let tree ← callable rules (within.method isAsync isGenerator) isConstructor
  if isConstructor then return .node (.constructor words) [tree]
  let words := words ++ (if isAsync then "async " else "") ++ if isGenerator then "*" else ""
  return .node (.classMethod words) [key, tree]

def staticBlock (rules : Rules) (within : Within) : Reader Tree := do
  expectWord "static"
  expect "\x7b"
  let inside := { within.method false false with inFunction := false }
  return .node .staticBlock (← items (rules .item) inside (accept "\x7d"))

def atStaticBlock : Reader Bool := do
  let found ← ahead (do
    expectWord "static"
    expect "\x7b")
  return found.isSome

def classMember (rules : Rules) (within : Within) : Reader Tree := do
  if ← atStaticBlock then return ← staticBlock rules within
  let words ← memberWords within
  if let some accessor ← accessor? then return ← accessorMember rules within words accessor
  keyedMember rules within words

def constructs (member : Tree) : Bool :=
  match member with
  | .node (.constructor _) [.node _ parts] => !parts.getLast?.any Tree.isAbsent
  | _ => false

/-- Members up to the closing brace. Semicolons between them count for nothing. -/
def classBody (rules : Rules) (within : Within) : Reader Tree := do
  expect "\x7b"
  let members ← iterate (fun done => do
    if ← accept "\x7d" then return .inr done.reverse
    if ← accept ";" then return .inl done
    return .inl ((← classMember rules within) :: done)) []
  require (members.countP constructs ≤ 1)
  return .node .classBody members

def superclass (rules : Rules) (within : Within) : Reader (Tree × Tree) := do
  if !(← acceptWord "extends") then return (.absent, .absent)
  let tree ← rules .operand within
  if within.types && (← atMark "<") then
    return (tree, typeNode (← typeArguments rules within))
  return (tree, .absent)

def interfaces (rules : Rules) (within : Within) : Reader Tree := do
  if ← onlyIf within.types (acceptWord "implements") then
    let types ← separated "," (do return typeNode (← typeReference rules within))
    return typeNode (Layout.commas (types.map typeLayout))
  return .absent

/-- A class from its keyword on. Its code is strict. -/
def classTree (rules : Rules) (within : Within) (named : Bool) : Reader Tree := do
  expectWord "class"
  let within := { within with strict := true }
  let atName ← atVariableName within
  let atImplements ← atWord "implements"
  let name ←
    if named || (atName && !(within.types && atImplements)) then some <$> declaredName within
    else pure none
  let types ← typeParameters? rules within
  let (parent, arguments) ← superclass rules within
  let declared ← interfaces rules within
  let body ← classBody rules within
  return .node (.classLike name) [types, body, parent, arguments, declared]

end CssInline.Code.Grammar
