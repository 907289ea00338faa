import CssInline.Code.Layout

/-! Code as a tree. Every node has a form, which says what it is and holds the names and literal
texts in it, and parts, listed in the order in which they are visited. -/

namespace CssInline.Code

/-- A static piece of a template literal, as written and with its escapes resolved, if it has no
faulty ones. -/
structure Quasi where
  raw : String
  cooked : Option String
deriving DecidableEq

def Quasi.text (quasi : Quasi) : String :=
  quasi.cooked.getD quasi.raw

/-- How a member access or a call belongs to a chain of optional ones. -/
inductive Chain where
  | none
  /-- After an optional step of the same chain. -/
  | link
  /-- An optional step. -/
  | optional
deriving DecidableEq

structure Comment where
  /-- Ends with its line. -/
  isLine : Bool
  text : String
deriving DecidableEq

/-- A name taken from a module or given away, perhaps under another name. -/
structure Specifier where
  typeOnly : Bool
  name : String
  alias? : Option String
deriving DecidableEq

structure ImportClause where
  typeOnly : Bool
  default? : Option String
  whole? : Option String
  names : List Specifier
  source : String
  rawSource : String
deriving DecidableEq

def ImportClause.size (clause : ImportClause) : Nat :=
  clause.default?.toList.length + clause.whole?.toList.length + clause.names.length

structure ExportClause where
  typeOnly : Bool
  names : List Specifier
  rawSource? : Option String
deriving DecidableEq

inductive Form where
  /-- Stands where something optional is left out. -/
  | absent
  /-- A type or a list of type parameters or arguments, kept as it is written out. -/
  | type (layout : Layout)

  /-- A variable in an expression. -/
  | name (id : String)
  /-- Without `raw` the text is written from the value. -/
  | string (value : String) (raw : Option String)
  /-- A number, a regular expression, or a word such as `true`. -/
  | literal (raw : String)
  | thisKeyword
  | superKeyword
  /-- The callee of a dynamic import. -/
  | importKeyword
  | metaProperty (text : String)
  | paren
  | array
  | elision
  | spread
  | object
  | template (quasis : List Quasi)
  /-- Tag, type arguments, interpolations. -/
  | tagged (line : Nat) (quasis : List Quasi)
  /-- Object and property. -/
  | member (chain : Chain)
  /-- The property of `super`. -/
  | superMember
  /-- Callee, type arguments, arguments. -/
  | call (chain : Chain)
  | new (hasArguments : Bool)
  | unary (operator : String)
  | update (operator : String) (before : Bool)
  | binary (operator : String)
  /-- Target and value. -/
  | assign (operator : String)
  | conditional
  | sequence
  | await
  | yield (delegates : Bool)
  /-- Signature and body in one `callable` part. -/
  | function (name : Option String) (isAsync isGenerator : Bool)
  /-- The parts of a `callable`. -/
  | arrow (isAsync : Bool)
  /-- Type parameters, body, superclass, its type arguments, implemented types. The body comes
  first because it is visited first. -/
  | classLike (name : Option String)
  /-- An expression with a type after the operator. -/
  | cast (operator : String)
  | assertion
  | nonNull

  /-- Properties of objects. -/
  | shorthand (id : String)
  /-- A shorthand with a value, which only a pattern may have. -/
  | initialized (id : String)
  | pair
  /-- Key and callable, as are the next two. -/
  | method (isAsync isGenerator : Bool)
  | getter
  | setter
  | keyName (id : String)
  | keyString (value : String) (raw : Option String)
  | keyNumber (raw : String)
  | computed
  | memberName (id : String)
  /-- A member name that is not a placeholder, whatever it is called. -/
  | fixedName (id : String)
  | privateName (id : String)

  /-- Type parameters, parameters, return type, body. A tight one has no space before its
  body. -/
  | callable (tight : Bool)
  | parameters
  | binding (id : String)
  | arrayPattern
  | objectPattern
  | patternPair
  /-- With a default value or nothing. -/
  | patternShorthand (id : String)
  | rest
  | defaulted
  /-- A pattern with its type. -/
  | annotated (isOptional : Bool)
  | modified (words : String)

  | classBody
  /-- Key and callable. -/
  | classMethod (words : String)
  | constructor (words : String)
  /-- Key, type and value. -/
  | classField (words : String) (mark : String)
  | staticBlock

  | element (name : String)
  | attributes
  | children
  | attribute (name : String)
  | markupSpread
  | markupText (raw : String)
  | container

  | expressionStatement
  | variableStatement
  | variables (keyword : String)
  /-- Pattern and value. -/
  | declarator
  | declaration
  | block
  | emptyStatement
  | debugger
  | returnStatement
  | throwStatement
  | breakStatement (label : Option String)
  | continueStatement (label : Option String)
  | ifStatement
  | forLoop
  | forIn
  | forOf (isAwait : Bool)
  | whileLoop
  /-- Condition and body: the condition is visited first. -/
  | doWhile
  | labeled (label : String)
  | switchStatement
  | caseClause
  | tryStatement
  | catchClause
  | withStatement
  | commented (comments : List Comment)

  | importItem (clause : ImportClause)
  | exportNames (clause : ExportClause)
  | exportAll (alias? : Option String) (rawSource : String)
  | exportDeclaration
  | exportDefault
  | exportDefaultDeclaration

  /-- A declaration without parts to visit. -/
  | plain (layout : Layout)
  | enum (words : String) (name : String)
  | enumMember (name : String)
  | namespaceBlock (words : String)
  | declare
deriving DecidableEq

inductive Tree where
  | node (form : Form) (parts : List Tree)

namespace Tree

def form : Tree → Form
  | .node form _ => form

def parts : Tree → List Tree
  | .node _ parts => parts

def leaf (form : Form) : Tree := .node form []

def absent : Tree := leaf .absent

def name (id : String) : Tree := leaf (.name id)

def paren (tree : Tree) : Tree := .node .paren [tree]

@[simp] theorem form_node (form : Form) (parts : List Tree) : (node form parts).form = form := rfl

@[simp] theorem parts_node (form : Form) (parts : List Tree) :
    (node form parts).parts = parts := rfl

@[elab_as_elim]
theorem inductionOn {motive : Tree → Prop} (tree : Tree)
    (node : ∀ form parts, (∀ part ∈ parts, motive part) → motive (.node form parts)) :
    motive tree := by
  cases tree with
  | node form parts =>
    apply node
    intro part member
    exact inductionOn part node
termination_by sizeOf tree
decreasing_by
  have smaller := List.sizeOf_lt_of_mem member
  simp only [Tree.node.sizeOf_spec]
  omega

mutual

def decEq : (left right : Tree) → Decidable (left = right)
  | .node form parts, .node form' parts' =>
    match (inferInstanceAs (Decidable (form = form'))), decEqAll parts parts' with
    | isTrue same, isTrue sameParts => isTrue (by rw [same, sameParts])
    | isFalse other, _ => isFalse fun same => other (node.inj same).1
    | _, isFalse other => isFalse fun same => other (node.inj same).2

def decEqAll : (left right : List Tree) → Decidable (left = right)
  | [], [] => isTrue rfl
  | [], _ :: _ => isFalse (List.cons_ne_nil _ _).symm
  | _ :: _, [] => isFalse (List.cons_ne_nil _ _)
  | tree :: trees, tree' :: trees' =>
    match decEq tree tree', decEqAll trees trees' with
    | isTrue same, isTrue sameRest => isTrue (by rw [same, sameRest])
    | isFalse other, _ => isFalse fun same => other (List.cons.inj same).1
    | _, isFalse other => isFalse fun same => other (List.cons.inj same).2

end

instance : DecidableEq Tree := decEq

mutual

/-- Whether `test` holds of the form of some node. -/
def any (test : Form → Bool) : Tree → Bool
  | .node form parts => test form || anyOf test parts

def anyOf (test : Form → Bool) : List Tree → Bool
  | [] => false
  | tree :: trees => tree.any test || anyOf test trees

end

/-- A node without its comments and its line number. -/
def bare (form : Form) (parts : List Tree) : Tree :=
  match form with
  | .commented _ =>
    match parts with
    | [tree] => tree
    | parts => .node form parts
  | .tagged _ quasis => .node (.tagged 0 quasis) parts
  | form => .node form parts

mutual

/-- The same code as if it stood nowhere in a file: without comments and line numbers. -/
def unplaced : Tree → Tree
  | .node form parts => bare form (unplacedAll parts)

def unplacedAll : List Tree → List Tree
  | [] => []
  | tree :: trees => tree.unplaced :: unplacedAll trees

end

theorem unplacedAll_eq_map (trees : List Tree) : unplacedAll trees = trees.map unplaced := by
  induction trees with
  | nil => rfl
  | cons tree trees ih => rw [unplacedAll, ih, List.map_cons]

end Tree

end CssInline.Code
