import CssInline.Compile
import CssInline.Placeholder.Substitution

/-! The places in code that compiled styles are put into. -/

namespace CssInline

open Code

inductive Site where
  /-- The default import of a style module. -/
  | importOf (clause : ImportClause) (name : String)
  | require (path : String)
  | template (template : Template) (holes : List Tree)

namespace Site

def ofImport? (config : Config) (clause : ImportClause) : Option Site :=
  if clause.typeOnly || !config.manages clause.source then none
  else clause.default?.map (.importOf clause)

def ofRequire? (config : Config) (path : String) : Option Site :=
  if config.manages path then some (.require path) else none

def ofTagged? (config : Config) (tag : String) (line : Nat) (quasis : List Quasi)
    (holes : List Tree) : Option Site :=
  if tag == config.tag then some (.template ⟨quasis.map Quasi.text, line⟩ holes) else none

/-- The site that a node is. -/
def of? (config : Config) : Tree → Option Site
  | .node (.importItem clause) _ => ofImport? config clause
  | .node (.call .none) (.node (.name "require") _ :: _ :: .node (.string path _) _ :: _) =>
    ofRequire? config path
  | .node (.tagged line quasis) (.node (.name tag) _ :: _ :: holes) =>
    ofTagged? config tag line quasis holes
  | _ => none

def constant (name : String) (value : Tree) : Tree :=
  .node .variableStatement
    [.node (.variables "const") [.node .declarator [.leaf (.binding name), value]]]

def expressionOf (source : String) : Run Tree :=
  match parseExpression source with
  | .ok tree => return tree
  | .error cause => Run.fail (.expression cause)

def compileImport (context : Context) (clause : ImportClause) (name : String) : Run Tree := do
  if 1 < clause.size then Run.emit (.specifiersDropped clause.source)
  Run.emit (.importFound clause.source name)
  let source ← context.compileModule clause.source
  return constant name (← expressionOf source)

def compileRequire (context : Context) (path : String) : Run Tree := do
  Run.emit (.requireFound path)
  expressionOf (← context.compileModule path)

def compileTemplate (context : Context) (template : Template) (holes : List Tree) :
    Run Tree := do
  let compiled ← context.compileTemplate template
  Run.emit (.templateCompiled template.startLine)
  return Placeholder.substitute compiled.stem holes (← expressionOf compiled.source)

/-- What takes the place of the site. -/
def compile (context : Context) : Site → Run Tree
  | .importOf clause name => compileImport context clause name
  | .require path => compileRequire context path
  | .template styles holes => compileTemplate context styles holes

end Site

end CssInline
