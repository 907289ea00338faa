import CssInline.Code.Grammar.Basic
import CssInline.Code.Printer

/-! Types. They are kept only as they are written out. -/

namespace CssInline.Code.Grammar

open Reader Layout

def typeNode (layout : Layout) : Tree :=
  .leaf (.type layout)

def typeLayout (tree : Tree) : Layout :=
  match tree.form with
  | .type layout => layout
  | _ => []

def typeOf (rules : Rules) (within : Within) : Reader Layout := do
  return typeLayout (← rules .type within)

def typeList (closing : String) (item : Reader Layout) : Reader (List Layout) := do
  let trees ← commaList closing (do return typeNode (← item))
  return trees.map typeLayout

/-- Takes one of the angle brackets that close several lists at once. -/
def expectAngle : Reader Unit := do
  require (← acceptChar '>')

def angleList (item : Reader Layout) : Reader (List Layout) :=
  iterate (fun done => do
    if ← acceptChar '>' then return .inr done.reverse
    let layout ← item
    if ← accept "," then return .inl (layout :: done)
    expectAngle
    return .inr (layout :: done).reverse) []

def typeArguments (rules : Rules) (within : Within) : Reader Layout := do
  expect "<"
  let arguments ← angleList (typeOf rules within)
  require (!arguments.isEmpty)
  return text "<" ++ commas arguments ++ text ">"

def typeParameter (rules : Rules) (within : Within) : Reader Layout := do
  let name ← anyWord
  let bound ← if ← acceptWord "extends" then typeOf rules within else pure []
  let standard ← if ← accept "=" then typeOf rules within else pure []
  return text name.text ++
    (if bound.isEmpty then [] else text " extends " ++ bound) ++
    (if standard.isEmpty then [] else text " = " ++ standard)

def typeParameters (rules : Rules) (within : Within) : Reader Layout := do
  expect "<"
  let parameters ← angleList (typeParameter rules within)
  require (!parameters.isEmpty)
  return text "<" ++ commas parameters ++ text ">"

/-- Type parameters, where there may be some. -/
def typeParameters? (rules : Rules) (within : Within) : Reader Tree := do
  if within.types && (← atMark "<") then return typeNode (← typeParameters rules within)
  else return .absent

def annotation? (rules : Rules) (within : Within) : Reader Tree := do
  if ← onlyIf within.types (accept ":") then rules .type within else return .absent

def typeSignatureParameter (rules : Rules) (within : Within) : Reader Layout := do
  let dots ← accept "..."
  let name ← anyWord
  let isOptional ← accept "?"
  let type ← if ← accept ":" then typeOf rules within else pure []
  return text ((if dots then "..." else "") ++ name.text ++ (if isOptional then "?" else "")) ++
    if type.isEmpty then [] else text ": " ++ type

def typeSignature (rules : Rules) (within : Within) : Reader Layout := do
  let generics ← if ← atMark "<" then typeParameters rules within else pure []
  expect "("
  let parameters ← typeList ")" (typeSignatureParameter rules within)
  return generics ++ text "(" ++ commas parameters ++ text ")"

def functionType (rules : Rules) (within : Within) : Reader Layout := do
  let parameters ← typeSignature rules within
  expect "=>"
  let result ← typeOf rules within
  return parameters ++ text " => " ++ result

def memberKey (rules : Rules) (within : Within) : Reader Layout := do
  if ← atQuote then return text (← string within).raw
  else if ← atDigit then return text (← number within.octal)
  else if ← accept "[" then
    let name ← attempt (do
      let name ← anyWord
      expect ":"
      return name.text)
    let type ← typeOf rules within
    expect "]"
    return text ("[" ++ (name.elim "" (· ++ ": "))) ++ type ++ text "]"
  else return text (← anyWord).text

/-- A member of an object type, without what separates it from the next. -/
def typeMember (rules : Rules) (within : Within) : Reader Layout := do
  if (← atMark "(") || (← atMark "<") then
    let parameters ← typeSignature rules within
    let result ← if ← accept ":" then typeOf rules within else pure []
    return parameters ++ if result.isEmpty then [] else text ": " ++ result
  let isReadonly ← attempt (do
    expectWord "readonly"
    require (!((← atMark ":") || (← atMark "?") || (← atMark "(") || (← atMark ";"))))
  let key ← memberKey rules within
  let isOptional ← accept "?"
  let parameters ←
    if (← atMark "(") || (← atMark "<") then typeSignature rules within else pure []
  let type ← if ← accept ":" then typeOf rules within else pure []
  return text (if isReadonly.isSome then "readonly " else "") ++ key ++
    text (if isOptional then "?" else "") ++ parameters ++
    if type.isEmpty then [] else text ": " ++ type

/-- The members of an object type after the opening brace, each on its line. -/
def typeMembers (rules : Rules) (within : Within) : Reader (List Layout) :=
  iterate (fun done => do
    if ← accept "\x7d" then return .inr done.reverse
    let member ← typeMember rules within
    if !(← accept ",") then semicolon
    return .inl ((member ++ text ";") :: done)) []

def objectType (rules : Rules) (within : Within) : Reader Layout := do
  expect "\x7b"
  let members ← typeMembers rules within
  return text "\x7b" ++
    (if members.isEmpty then [] else indented (join line members)) ++ text "\x7d"

def typeReference (rules : Rules) (within : Within) : Reader Layout := do
  let names ← separated "." (do return typeNode (text (← anyWord).text))
  let arguments ←
    if (← atMark "<") && !(← afterBreak) then typeArguments rules within else pure []
  return join (text ".") (names.map typeLayout) ++ arguments

def tupleElement (rules : Rules) (within : Within) : Reader Layout := do
  let dots ← accept "..."
  let label ← attempt (do
    let name ← anyWord
    let isOptional ← accept "?"
    expect ":"
    return name.text ++ (if isOptional then "?: " else ": "))
  let type ← typeOf rules within
  let isOptional ← accept "?"
  return text ((if dots then "..." else "") ++ label.getD "") ++ type ++
    text (if isOptional then "?" else "")

def wordType (rules : Rules) (within : Within) (word : String) : Reader Layout := do
  match word with
  | "typeof" =>
    pass word.length
    return text "typeof " ++ (← typeReference rules within)
  | "import" =>
    pass word.length
    expect "("
    let source ← string within
    expect ")"
    let rest ← if ← accept "." then typeReference rules within else pure []
    return text ("import(" ++ source.raw ++ ")") ++ if rest.isEmpty then [] else text "." ++ rest
  | "new" =>
    pass word.length
    return text "new " ++ (← functionType rules within)
  | "null" | "true" | "false" | "this" | "void" =>
    pass word.length
    return text word
  | _ => typeReference rules within

def primaryType (rules : Rules) (within : Within) : Reader Layout := do
  if let some type ← attempt (functionType rules within) then return type
  if ← accept "(" then
    let type ← typeOf rules within
    expect ")"
    return text "(" ++ type ++ text ")"
  if ← accept "[" then
    let elements ← typeList "]" (tupleElement rules within)
    return text "[" ++ commas elements ++ text "]"
  if ← atMark "\x7b" then return ← objectType rules within
  if ← atQuote then return text (← string within).raw
  if ← atDigit then return text (← number within.octal)
  if ← accept "-" then return text ("-" ++ (← number within.octal))
  wordType rules within (← ofOption (← word?)).text

def suffixedType (rules : Rules) (within : Within) : Reader Layout := do
  let first ← primaryType rules within
  iterate (fun type => do
    if !(← onlyIf (!(← afterBreak)) (accept "[")) then return .inr type
    if ← accept "]" then return .inl (type ++ text "[]")
    let index ← typeOf rules within
    expect "]"
    return .inl (type ++ text "[" ++ index ++ text "]")) first

def typeOperators : List String :=
  ["keyof", "unique", "readonly", "infer", "asserts"]

def operatorType (rules : Rules) (within : Within) : Reader Layout := do
  iterate (fun (done : Layout) => do
    let operator ← attempt (do
      let word ← ofOption (← keyword?)
      require (typeOperators.contains word)
      pass word.length
      require ((← word?).isSome || (← atMark "\x7b") || (← atMark "(") || (← atMark "["))
      return word)
    match operator with
    | some word => return .inl (done ++ text (word ++ " "))
    | none => return .inr (done ++ (← suffixedType rules within))) []

def separatedType (mark : String) (item : Reader Layout) : Reader Layout := do
  let _ ← accept mark
  let types ← separated mark (do return typeNode (← item))
  return join (text (" " ++ mark ++ " ")) (types.map typeLayout)

def unionType (rules : Rules) (within : Within) : Reader Layout :=
  separatedType "|" (separatedType "&" (operatorType rules within))

def type (rules : Rules) (within : Within) : Reader Tree := do
  let subject ← unionType rules within
  if ← onlyIf (!(← afterBreak)) (acceptWord "is") then
    let result ← typeOf rules within
    return typeNode (subject ++ text " is " ++ result)
  if !(← onlyIf (!(← afterBreak)) (acceptWord "extends")) then return typeNode subject
  let bound ← unionType rules within
  expect "?"
  let yes ← typeOf rules within
  expect ":"
  let no ← typeOf rules within
  return typeNode
    (subject ++ text " extends " ++ bound ++ text " ? " ++ yes ++ text " : " ++ no)

end CssInline.Code.Grammar
