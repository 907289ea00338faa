import CssInline.Config
import CssInline.Placeholder.Exposure
import CssInline.Run

/-! The text of an expression for a style module or a style template. -/

namespace CssInline

/-- What is known about the file that is being compiled. -/
structure Context where
  config : Config
  loader : Loader
  filename : String
  code : String

/-- The static texts of a template, one more than its interpolations, and its first line. -/
structure Template where
  texts : List String
  startLine : Nat

/-- The text of an expression, and the stem of the placeholders that stand in it for
interpolations. -/
structure Compiled where
  source : String
  stem : List Char
deriving DecidableEq

namespace Context

/-- Stands in for a module that failed: a value that can also be called. -/
def moduleStandIn : String := "() => \x7b\x7d"

def templateStandIn : Compiled := ⟨"\x7b\x7d", []⟩

def process (filename : String) (processor : Processor) (styles : String) : Run String := do
  Run.emit (.processed filename styles)
  match processor filename styles with
  | .ok source => return source
  | .error cause => Run.fail (.process cause)

def fetch (context : Context) (path : String) : Run String := do
  let fetched := context.loader context.filename path
  Run.emit (.fetched path fetched.opened)
  match fetched.source with
  | .ok styles => return styles
  | .error cause => Run.fail (.load path cause)

/-- In strict mode a failure stays one; otherwise it is reported and `fallback` takes the place of
the result. -/
def tolerate (context : Context) (position : Option Position) (fallback : α) (run : Run α) :
    Run α :=
  match run.outcome with
  | .ok _ => run
  | .error failure =>
    if context.config.strict then run
    else
      ⟨run.events ++ [.reported ⟨failure.text, context.filename, position⟩], .ok fallback⟩

/-- The expression for the style module at `path`, or the failure to get it. -/
def attemptModule (context : Context) (path : String) : Run String := do
  let styles ← context.fetch path
  process context.filename context.config.processor styles

def compileModule (context : Context) (path : String) : Run String :=
  context.tolerate none moduleStandIn (context.attemptModule path)

end Context

namespace Template

def holes (template : Template) : Nat :=
  template.texts.length - 1

def styles (template : Template) (stem : List Char) : String :=
  String.ofList (Placeholder.weave stem template.holes (template.texts.map String.toList))

def joined (template : Template) : List Char :=
  template.texts.flatMap String.toList

/-- The expression that `processor` makes of the template, in a file with text `code`. -/
def process (template : Template) (filename code : String) (processor : Processor) :
    Run Compiled := do
  let stem := Placeholder.freshStem code.toList
  let output ← Context.process filename processor (template.styles stem)
  let source := Placeholder.expose stem template.holes output.toList
  return ⟨String.ofList source, stem⟩

end Template

namespace Context

def compileTemplate (context : Context) (template : Template) : Run Compiled :=
  context.tolerate (some (templatePosition template.joined template.startLine))
    templateStandIn (template.process context.filename context.code context.config.processor)

/-- The expression for a template, or `none` if `tag` is not the one for styles. -/
def compileTagged? (context : Context) (tag : String) (template : Template) :
    Run (Option Compiled) :=
  if tag != context.config.tag then return none else some <$> context.compileTemplate template

end Context

end CssInline
