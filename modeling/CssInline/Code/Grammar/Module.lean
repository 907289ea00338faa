import CssInline.Code.Grammar.Declaration

/-! Imports and exports. -/

namespace CssInline.Code.Grammar

open Reader

/-! Names that are passed between modules -/

def moduleName (within : Within) : Reader String := do
  if ← atQuote then return (← string within).raw
  return (← anyWord).text

def specifierAlias (name : Reader String) : Reader (Option String) := do
  if ← acceptWord "as" then some <$> name else pure none

/-- Takes `type` where it is not itself the name. -/
def typeMark (within : Within) : Reader Bool := do
  let found ← attempt (do
    require within.types
    expectWord "type"
    require ((← word?).isSome && !(← atWord "as") && !(← atWord "from")))
  return found.isSome

def importSpecifier (within : Within) : Reader Specifier := do
  let typeOnly ← typeMark within
  let quoted ← atQuote
  let name ← moduleName within
  let name? ← specifierAlias (declaredName within)
  require (name?.isSome || (!quoted && isVariableName within name))
  return ⟨typeOnly, name, name?⟩

def exportSpecifier (within : Within) : Reader Specifier := do
  let typeOnly ← typeMark within
  let name ← moduleName within
  return ⟨typeOnly, name, ← specifierAlias (moduleName within)⟩

def specifiersStep (specifier : Reader Specifier) (done : List Specifier) :
    Reader (List Specifier ⊕ List Specifier) := do
  if ← accept "\x7d" then return .inr done.reverse
  let next ← specifier
  if ← accept "," then return .inl (next :: done)
  expect "\x7d"
  return .inr (next :: done).reverse

def specifiers (specifier : Reader Specifier) : Reader (List Specifier) := do
  expect "\x7b"
  iterate (specifiersStep specifier) []

/-! Imports -/

def moduleSource (within : Within) : Reader StringLexeme := do
  let source ← string within
  semicolon
  return source

/-- What an import names after its default name. -/
structure NamesAfterDefault where
  whole? : Option String
  names : List Specifier

def namesAfterDefault (within : Within) : Reader NamesAfterDefault := do
  if ← accept "*" then
    expectWord "as"
    return ⟨some (← declaredName within), []⟩
  return ⟨none, ← specifiers (importSpecifier within)⟩

def importFrom (within : Within) (typeOnly : Bool) : Reader Tree := do
  let default? ←
    if ← atVariableName within then some <$> declaredName within else pure none
  let hasNames ← if default?.isSome then accept "," else pure true
  let named ← if hasNames then namesAfterDefault within else pure ⟨none, []⟩
  expectWord "from"
  let source ← moduleSource within
  return .leaf (.importItem {
    typeOnly, default?, whole? := named.whole?, names := named.names
    source := source.value, rawSource := source.raw })

/-- An import for what the module does, of nothing in it. -/
def bareImport (within : Within) : Reader Tree := do
  let source ← moduleSource within
  return .leaf (.importItem {
    typeOnly := false, default? := none, whole? := none, names := []
    source := source.value, rawSource := source.raw })

def importAlias (within : Within) : Reader Tree := do
  require within.types
  let name ← declaredName within
  expect "="
  let external ← attempt (do
    expectWord "require"
    expect "("
    let source ← string within
    expect ")"
    return "require(" ++ source.raw ++ ")")
  let value ←
    match external with
    | some value => pure value
    | none =>
      let names ← separated "." (do return .name (← anyWord).text)
      pure (Layout.write (Layout.join (Layout.text ".") (layouts names)))
  semicolon
  return .leaf (.plain (Layout.text ("import " ++ name ++ " = " ++ value ++ ";")))

def importTypeMark (within : Within) : Reader Bool := do
  let found ← attempt (do
    require within.types
    expectWord "type"
    require ((← atMark "\x7b") || (← atMark "*") ||
      ((← word?).isSome && (!(← atWord "from") || (← ahead (do
        expectWord "from"
        expectWord "from")).isSome))))
  return found.isSome

def importDeclaration (within : Within) : Reader Tree := do
  expectWord "import"
  if ← atQuote then return ← bareImport within
  if let some tree ← attempt (importAlias within) then return tree
  importFrom within (← importTypeMark within)

/-! Exports -/

def exportedNames (within : Within) (typeOnly : Bool) : Reader Tree := do
  let names ← specifiers (exportSpecifier within)
  let source ←
    if ← acceptWord "from" then some <$> moduleSource within
    else
      semicolon
      pure none
  return .leaf (.exportNames ⟨typeOnly, names, source.map StringLexeme.raw⟩)

def exportAll (within : Within) : Reader Tree := do
  expect "*"
  let name ← specifierAlias (moduleName within)
  expectWord "from"
  return .leaf (.exportAll name (← moduleSource within).raw)

def exportDefault (rules : Rules) (within : Within) : Reader Tree := do
  expectWord "default"
  if (← atWord "function") || (← atAsyncFunction) then
    return .node .exportDefaultDeclaration [← functionTree rules within false true]
  if ← atWord "class" then
    return .node .exportDefaultDeclaration [← classTree rules within false]
  let value ← rules .assignment within
  semicolon
  return .node .exportDefault [value]

def exportTypeMark (within : Within) : Reader Bool := do
  let found ← attempt (do
    require within.types
    expectWord "type"
    require (← atMark "\x7b"))
  return found.isSome

def exportItem (rules : Rules) (within : Within) : Reader Tree := do
  expectWord "export"
  if ← atWord "default" then return ← exportDefault rules within
  if ← atMark "*" then return ← exportAll within
  let typeOnly ← exportTypeMark within
  if ← atMark "\x7b" then return ← exportedNames within typeOnly
  let tree ← ofOption (← declaration? rules within)
  return .node .exportDeclaration [tree]

/-! Items -/

def atImport : Reader Bool := do
  let found ← ahead (do
    expectWord "import"
    require (!((← atMark "(") || (← atMark "."))))
  return found.isSome

def plainModuleItem (rules : Rules) (within : Within) : Reader Tree := do
  if ← atImport then return ← importDeclaration within
  if ← atWord "export" then return ← exportItem rules within
  plainItem rules within

def moduleItem (rules : Rules) (within : Within) : Reader Tree :=
  withComments (plainModuleItem rules within)

end CssInline.Code.Grammar
