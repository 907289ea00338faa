import CssInline.Code.Grammar.Pattern

/-! Functions: their signatures and their bodies. -/

namespace CssInline.Code.Grammar

open Reader

/-! Lists of statements -/

def isStrictDirective : Tree → Bool
  | .node .expressionStatement [.node (.string _ (some raw)) _] =>
    raw == "'use strict'" || raw == "\"use strict\""
  | .node (.commented _) [.node .expressionStatement [.node (.string _ (some raw)) _]] =>
    raw == "'use strict'" || raw == "\"use strict\""
  | _ => false

def isDirective : Tree → Bool
  | .node .expressionStatement [.node (.string _ _) _] => true
  | .node (.commented _) [.node .expressionStatement [.node (.string _ _) _]] => true
  | _ => false

/-- The items read so far, and whether only directives are among them. -/
structure Prologue where
  done : List Tree
  within : Within
  isOpen : Bool

/-- Items up to where `stop` succeeds. A directive among the first ones makes those after it
strict. -/
def items (item : Within → Reader Tree) (within : Within) (stop : Reader Bool) :
    Reader (List Tree) :=
  iterate (fun (state : Prologue) => do
    if ← stop then return .inr state.done.reverse
    let tree ← item state.within
    let isOpen := state.isOpen && isDirective tree
    let strict := state.within.strict || (isOpen && isStrictDirective tree)
    return .inl ⟨tree :: state.done, { state.within with strict }, isOpen⟩) ⟨[], within, true⟩

def functionBody (rules : Rules) (within : Within) : Reader Tree := do
  expect "\x7b"
  return .node .block (← items (rules .item) within (accept "\x7d"))

def callable (rules : Rules) (inside : Within) (tight : Bool) : Reader Tree := do
  let types ← typeParameters? rules inside
  let list ← parameters rules inside
  let result ← annotation? rules inside
  if inside.types && !(← atMark "\x7b") then
    semicolon
    return .node (.callable tight) [types, list, result, .absent]
  let body ← functionBody rules inside
  return .node (.callable tight) [types, list, result, body]

/-- A function from its keyword on. A name may be missing where `named` does not ask for one. -/
def functionFrom (rules : Rules) (within : Within) (isAsync named isDeclaration : Bool) :
    Reader Tree := do
  expectWord "function"
  let isGenerator ← accept "*"
  let inside := if isDeclaration then within else within.function isAsync isGenerator
  let hasName := named || !((← atMark "(") || (← atMark "<"))
  let name ← if hasName then some <$> declaredName inside else pure none
  let body ← callable rules (within.function isAsync isGenerator) false
  return .node (.function name isAsync isGenerator) [body]

def atAsyncFunction : Reader Bool := do
  let found ← ahead (do
    expectWord "async"
    require (!(← afterBreak))
    expectWord "function")
  return found.isSome

def functionTree (rules : Rules) (within : Within) (named isDeclaration : Bool) :
    Reader Tree := do
  let isAsync ← atAsyncFunction
  if isAsync then expectWord "async"
  functionFrom rules within isAsync named isDeclaration

/-! Arrow functions -/

def arrowBody (rules : Rules) (within : Within) (isAsync : Bool) : Reader Tree := do
  let inside := within.arrow isAsync
  if ← atMark "\x7b" then functionBody rules inside.bracketed else rules .assignment inside

def arrowMark : Reader Unit := do
  require (!(← afterBreak))
  expect "=>"

def arrowFrom (rules : Rules) (within : Within) (isAsync : Bool) (types list result : Tree) :
    Reader Tree := do
  let body ← arrowBody rules within isAsync
  return .node (.arrow isAsync) [types, list, result, body]

def arrowHead (rules : Rules) (within : Within) (isAsync : Bool) :
    Reader (Tree × Tree × Tree) := do
  let types ← typeParameters? rules within
  let list ← parameters rules { within.bracketed with isAsync := isAsync || within.isAsync }
  let result ← annotation? rules within
  arrowMark
  return (types, list, result)

def bareArrowHead (within : Within) : Reader (Tree × Tree × Tree) := do
  let id ← declaredName within
  arrowMark
  return (.absent, .node .parameters [.leaf (.binding id)], .absent)

def asyncMark : Reader Unit := do
  expectWord "async"
  require (!(← afterBreak))

/-- Whether type parameters may start here. Where elements are written too, they need a comma or a
bound to tell them apart. -/
def atTypeParameters (within : Within) : Reader Bool := do
  if !within.types || !(← atMark "<") then return false
  if !within.markup then return true
  let found ← ahead (do
    expect "<"
    let _ ← anyWord
    require ((← atMark ",") || (← atWord "extends")))
  return found.isSome

/-- An arrow function, if one starts here. What looks like its head may still be an expression, so
the head is read first. -/
def arrow? (rules : Rules) (within : Within) : Reader (Option Tree) := do
  let plain ← attempt (do
    if (← atMark "(") || (← atTypeParameters within) then arrowHead rules within false
    else bareArrowHead within)
  if let some (types, list, result) := plain then
    return some (← arrowFrom rules within false types list result)
  if !(← atWord "async") then return none
  let inside := { within with isAsync := true }
  let async ← attempt (do
    asyncMark
    if (← atMark "(") || (← atTypeParameters within) then arrowHead rules within true
    else bareArrowHead inside)
  if let some (types, list, result) := async then
    return some (← arrowFrom rules within true types list result)
  return none

end CssInline.Code.Grammar
