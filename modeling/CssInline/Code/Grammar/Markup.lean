import CssInline.Code.Grammar.Basic

/-! Elements written in angle brackets. -/

namespace CssInline.Code.Grammar

open Reader

/-- Names of elements and attributes may hold dashes. -/
def markupName : Reader String := do
  let text ← remaining
  require (text.head?.any isWordStart)
  let name := text.takeWhile fun c => isWordRest c || c == '-'
  pass name.length
  return String.ofList name

def joinedName (mark : String) (first : String) : Reader String :=
  iterate (fun (name : String) => do
    if ← accept mark then return .inl (name ++ mark ++ (← markupName))
    else return .inr name) first

def elementName : Reader String := do
  let first ← markupName
  if ← accept ":" then return first ++ ":" ++ (← markupName)
  joinedName "." first

def attributeName : Reader String := do
  let first ← markupName
  if ← accept ":" then return first ++ ":" ++ (← markupName)
  return first

/-- Text in quotes, taken as it is. -/
def markupString : Reader Tree := do
  match ← remaining with
  | [] => fail
  | quote :: rest =>
    let text := rest.takeWhile (· != quote)
    require (text.length < rest.length)
    pass (text.length + 2)
    return .leaf (.markupText (String.ofList (quote :: text ++ [quote])))

def containerInside (rules : Rules) (within : Within) : Reader Tree := do
  if ← atMark "\x7d" then return .leaf .container
  if ← accept "..." then return .node .markupSpread [← rules .assignment within.bracketed]
  return .node .container [← rules .expression within.bracketed]

def attributeValue (rules : Rules) (within : Within) : Reader Tree := do
  if ← atQuote then return ← markupString
  if ← accept "\x7b" then
    let tree ← rules .expression within.bracketed
    expect "\x7d"
    return .node .container [tree]
  let tree ← rules .element within
  settle
  return tree

def markupAttribute (rules : Rules) (within : Within) : Reader Tree := do
  if ← accept "\x7b" then
    expect "..."
    let tree ← rules .assignment within.bracketed
    expect "\x7d"
    return .node .markupSpread [tree]
  let name ← attributeName
  if ← accept "=" then return .node (.attribute name) [← attributeValue rules within]
  return .leaf (.attribute name)

def attributeList (rules : Rules) (within : Within) : Reader (List Tree) :=
  iterate (fun done => do
    if (← remaining).head?.any (fun c => c == '>' || c == '/') then return .inr done.reverse
    return .inl ((← markupAttribute rules within) :: done)) []

def closingTag (name : String) : Reader Unit := do
  expect "<"
  expect "/"
  let closing ← if ← atMark ">" then pure "" else elementName
  require (closing == name)
  require ((← remaining).head? == some '>')
  advance 1

def markupTextEnds (c : Char) : Bool :=
  c == '<' || c == '{' || c == '>' || c == '\x7d'

def childStep (rules : Rules) (within : Within) (done : List Tree) :
    Reader (List Tree ⊕ List Tree) := do
  match ← remaining with
  | '<' :: rest =>
    if (rest.dropWhile fun c => isSpace c || isLineBreak c).head? == some '/' then
      return .inr done.reverse
    return .inl ((← rules .element within) :: done)
  | '{' :: _ =>
    pass 1
    let tree ← containerInside rules within
    expectRaw "\x7d"
    return .inl (tree :: done)
  | text =>
    let run := text.takeWhile fun c => !markupTextEnds c
    require (!run.isEmpty)
    advance run.length
    return .inl (.leaf (.markupText (String.ofList run)) :: done)

/-- An element, or several of them without a name around. What follows its last bracket stays as
it is. -/
def element (rules : Rules) (within : Within) : Reader Tree := do
  expect "<"
  let name ← if (← remaining).head? == some '>' then pure "" else elementName
  let opening ← attributeList rules within
  if ← accept "/" then
    require (!name.isEmpty)
    require ((← remaining).head? == some '>')
    advance 1
    return .node (.element name) [.node .attributes opening, .absent]
  advance 1
  let content ← iterate (childStep rules within) []
  closingTag name
  return .node (.element name) [.node .attributes opening, .node .children content]

end CssInline.Code.Grammar
