import CssInline.Code.Tree

/-! Expressions as targets of assignments. -/

namespace CssInline.Code

def Tree.isSpread (tree : Tree) : Bool :=
  match tree.form with
  | .spread => true
  | _ => false

/-- Names that strict code may not assign. -/
def isGuarded (id : String) : Bool :=
  id == "eval" || id == "arguments"

/-- Whether the expression can be assigned to as it is: a member, or a name or a member in
parentheses. -/
def isReference (strict : Bool) : Tree → Bool
  | .node (.name id) _ => !(strict && isGuarded id)
  | .node (.member .none) _ => true
  | .node .superMember _ => true
  | .node .paren [inner] => isReference strict inner
  | .node .nonNull [inner] => isReference strict inner
  | .node (.cast _) [inner, _] => isReference strict inner
  | _ => false

/-- A name or a member as a target. A bare name becomes a binding. -/
def simpleTarget? (strict : Bool) (tree : Tree) : Option Tree :=
  if isReference strict tree then
    match tree with
    | .node (.name id) _ => some (.leaf (.binding id))
    | tree => some tree
  else none

mutual

def target? (strict : Bool) : Tree → Option Tree
  | .node .array elements => (elementTargets? strict elements).map (.node .arrayPattern)
  | .node .object properties => (propertyTargets? strict properties).map (.node .objectPattern)
  | tree => simpleTarget? strict tree

def elementTarget? (strict : Bool) : Tree → Option Tree
  | .node .elision _ => some (.leaf .elision)
  | .node (.assign operator) [target, value] =>
    if operator == "=" then some (.node .defaulted [target, value]) else none
  | .node .spread [inner] => (target? strict inner).map fun target => .node .rest [target]
  | .node form parts => target? strict (.node form parts)

def propertyTarget? (strict : Bool) : Tree → Option Tree
  | .node (.shorthand id) _ =>
    if strict && isGuarded id then none else some (.leaf (.patternShorthand id))
  | .node (.initialized id) parts =>
    if strict && isGuarded id then none else some (.node (.patternShorthand id) parts)
  | .node .pair [key, value] =>
    (elementTarget? strict value).map fun target => .node .patternPair [key, target]
  | .node .spread [inner] => (target? strict inner).map fun target => .node .rest [target]
  | _ => none

/-- What collects the rest of a list stands last. -/
def elementTargets? (strict : Bool) : List Tree → Option (List Tree)
  | [] => some []
  | tree :: trees =>
    if tree.isSpread && !trees.isEmpty then none
    else do return (← elementTarget? strict tree) :: (← elementTargets? strict trees)

def propertyTargets? (strict : Bool) : List Tree → Option (List Tree)
  | [] => some []
  | tree :: trees =>
    if tree.isSpread && !trees.isEmpty then none
    else do return (← propertyTarget? strict tree) :: (← propertyTargets? strict trees)

end

end CssInline.Code
