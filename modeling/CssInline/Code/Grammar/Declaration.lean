import CssInline.Code.Grammar.Statement

/-! Declarations, those of types among them. -/

namespace CssInline.Code.Grammar

open Reader Layout

/-! Types -/

def typeNames (rules : Rules) (within : Within) : Reader Layout := do
  let types ← separated "," (do return typeNode (← typeReference rules within))
  return commas (types.map typeLayout)

def interface (rules : Rules) (within : Within) : Reader Tree := do
  expectWord "interface"
  let name ← variableName within
  let types ← typeParameters? rules within
  let parents ← if ← acceptWord "extends" then typeNames rules within else pure []
  expect "\x7b"
  let members ← typeMembers rules within
  return .leaf (.plain
    (text ("interface " ++ name) ++ typeLayout types ++ after " extends " parents ++
      text " \x7b" ++ lines members ++ text "\x7d"))

def typeAlias (rules : Rules) (within : Within) : Reader Tree := do
  expectWord "type"
  let name ← variableName within
  let types ← typeParameters? rules within
  expect "="
  let type ← rules .type within
  semicolon
  return .leaf (.plain
    (text ("type " ++ name) ++ typeLayout types ++ text " = " ++ typeLayout type ++ text ";"))

def enumMember (rules : Rules) (within : Within) : Reader Tree := do
  let name ← if ← atQuote then pure (← string within).raw else pure (← anyWord).text
  if ← accept "=" then return .node (.enumMember name) [← rules .assignment within]
  return .leaf (.enumMember name)

def enumeration (rules : Rules) (within : Within) : Reader Tree := do
  let isConst ← acceptWord "const"
  expectWord "enum"
  let name ← variableName within
  expect "\x7b"
  let members ← commaList "\x7d" (enumMember rules within)
  return .node (.enum (if isConst then "const " else "") name) members

def namespaceBlock (rules : Rules) (within : Within) (keyword : String) : Reader Tree := do
  expectWord keyword
  let name ←
    if ← atQuote then pure (← string within).raw
    else
      let names ← separated "." (do return .name (← variableName within))
      pure (write (join (text ".") (layouts names)))
  expect "\x7b"
  return .node (.namespaceBlock (keyword ++ " " ++ name))
    (← listUntil "\x7d" (rules .item within))

def abstractClass (rules : Rules) (within : Within) : Reader Tree := do
  expectWord "abstract"
  return .node .declaration [.node (.modified "abstract ") [← classTree rules within true]]

def ambient (rules : Rules) (within : Within) : Reader Tree := do
  expectWord "declare"
  return .node .declare [← rules .item { within with ambient := true }]

/-- What may follow the word of a type declaration on the same line. -/
def atDeclared : Reader Bool := do
  if ← afterBreak then return false
  return (← word?).any fun word =>
    !(["in", "instanceof", "as", "satisfies"].contains word.text)

def typeDeclaration? (rules : Rules) (within : Within) : Reader (Option (Reader Tree)) := do
  let some word ← keyword? | return none
  let next ← ahead (do
    pass word.length
    return (← keyword?, ← atDeclared, (← atQuote)))
  let (following, isDeclared, isQuoted) := next.getD (none, false, false)
  match word with
  | "enum" => return some (enumeration rules within)
  | "const" =>
    return if following == some "enum" then some (enumeration rules within) else none
  | "interface" => return if isDeclared then some (interface rules within) else none
  | "type" => return if isDeclared then some (typeAlias rules within) else none
  | "abstract" =>
    return if following == some "class" then some (abstractClass rules within) else none
  | "declare" => return if isDeclared then some (ambient rules within) else none
  | "namespace" =>
    return if isDeclared then some (namespaceBlock rules within "namespace") else none
  | "module" =>
    return if isDeclared || isQuoted then some (namespaceBlock rules within "module") else none
  | _ => return none

/-! All declarations -/

def functionDeclaration (rules : Rules) (within : Within) (named : Bool) : Reader Tree := do
  return .node .declaration [← functionTree rules within named true]

def classDeclaration (rules : Rules) (within : Within) (named : Bool) : Reader Tree := do
  return .node .declaration [← classTree rules within named]

def declaration? (rules : Rules) (within : Within) : Reader (Option Tree) := do
  if within.types then
    if let some reader ← typeDeclaration? rules within then return some (← reader)
  if let some keyword ← variableKeyword? then
    return some (← variableStatement rules within keyword)
  if (← atWord "function") || (← atAsyncFunction) then
    return some (← functionDeclaration rules within true)
  if ← atWord "class" then return some (← classDeclaration rules within true)
  return none

def plainItem (rules : Rules) (within : Within) : Reader Tree := do
  match ← declaration? rules within with
  | some tree => return tree
  | none => plainStatement rules within

def item (rules : Rules) (within : Within) : Reader Tree :=
  withComments (plainItem rules within)

end CssInline.Code.Grammar
