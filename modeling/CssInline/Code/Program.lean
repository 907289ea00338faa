import CssInline.Code.Grammar.Module

/-! The code of a whole file, read from its text and written out again. -/

namespace CssInline.Code

/-- What a file may hold beside plain code. -/
structure Dialect where
  types : Bool
  markup : Bool
deriving DecidableEq

def Dialect.plain : Dialect := ⟨false, false⟩

/-- Files with types go by their endings. All others may hold elements. -/
def Dialect.ofFilename (filename : String) : Dialect where
  types := [".ts", ".tsx", ".mts", ".cts"].any fun ending => filename.endsWith ending
  markup := !([".ts", ".mts", ".cts"].any fun ending => filename.endsWith ending)

structure Program where
  /-- The first line, if it names an interpreter. -/
  shebang : Option String
  items : List Tree
deriving DecidableEq

def Program.print (program : Program) : String :=
  Layout.write <|
    (program.shebang.elim [] fun line => Layout.text ("#!" ++ line) ++ Layout.line) ++
      (layouts program.items).flatten

def Program.unplaced (program : Program) : Program :=
  { program with items := Tree.unplacedAll program.items }

/-! The rules of the grammar put together -/

namespace Grammar

def produce (rules : Rules) : Rules := fun goal within =>
  match goal with
  | .item => item rules within
  | .statement => statement rules within
  | .expression => expression rules within
  | .assignment => assignment rules within
  | .unary => unary rules within
  | .operand => access rules within true
  | .callee => access rules within false
  | .binding => binding rules within
  | .type => type rules within
  | .element => element rules within

/-- Rules that may use each other up to the given depth. -/
def rulesOf : Nat → Rules
  | 0, _, _ => Reader.fail
  | depth + 1, goal, within => produce (rulesOf depth) goal within

/-- A rule takes a character before it asks for a rule of the same kind again, so the depth is
bounded by the length of the text. -/
def depthFor (text : List Char) : Nat :=
  16 * (text.length + 1)

end Grammar

/-! Whole texts -/

def Cursor.start (text : List Char) : Cursor where
  rest := text
  line := 1
  afterBreak := true
  comments := []

def readItems (dialect : Dialect) (isModule : Bool) (text : List Char) : Option (List Tree) :=
  let rules := Grammar.rulesOf (Grammar.depthFor text)
  let within : Grammar.Within :=
    { types := dialect.types, markup := dialect.markup, isModule, strict := isModule }
  let item := if isModule then Grammar.moduleItem rules else Grammar.item rules
  let reader : Reader (List Tree) := do
    Reader.settle
    Grammar.items item within Reader.atEnd
  ((reader (Cursor.start text)).map Prod.fst).filter fun items =>
    !Tree.anyOf (fun form => form matches .initialized _) items

def Tree.isModuleItem : Tree → Bool
  | .node (.importItem _) _ | .node (.exportNames _) _ | .node (.exportAll _ _) _
  | .node .exportDeclaration _ | .node .exportDefault _
  | .node .exportDefaultDeclaration _ => true
  | .node (.commented _) [item] => item.isModuleItem
  | _ => false

/-- Whether only a module can hold the items. -/
def needsModule (items : List Tree) : Bool :=
  items.any Tree.isModuleItem

def readScript (text : List Char) : Option (List Tree) :=
  readItems .plain false text

/-- The items of a module or a script. What can be read as both is a script. -/
def readFile (dialect : Dialect) (text : List Char) : Option (List Tree) :=
  let asModule := readItems dialect true text
  match asModule.filter needsModule with
  | some items => some items
  | none => (readItems dialect false text).or asModule

def splitShebang (text : List Char) : Option String × List Char :=
  match text with
  | '#' :: '!' :: rest =>
    (some (String.ofList (rest.takeWhile fun c => !isLineBreak c)),
      rest.dropWhile fun c => !isLineBreak c)
  | _ => (none, text)

def Program.parse? (dialect : Dialect) (text : String) : Option Program :=
  let (shebang, body) := splitShebang text.toList
  (readFile dialect body).map fun items => ⟨shebang, items⟩

end CssInline.Code
