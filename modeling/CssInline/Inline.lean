import CssInline.Site

/-! The code of a file with its sites compiled. -/

namespace CssInline

open Code

/-- How far a walk over code has come: what has happened, and the failure that it has met. -/
structure Progress where
  events : List Event
  failure? : Option Failure

def Progress.start : Progress := ⟨[], none⟩

/-- A walk over code cannot break off. After a failure it goes on to the end, but leaves all code
as it is. -/
abbrev Walk := StateM Progress

/-- What a walk comes to. There is a result also after a failure. -/
structure Pass (α : Type) where
  result : α
  events : List Event
  failure? : Option Failure

namespace Walk

/-- Takes `walk` where nothing has failed yet, and else keeps the code. -/
def unlessHalted (kept : α) (walk : Walk α) : Walk α := do
  if (← get).failure?.isSome then return kept else walk

/-- The result of `run`. A failure is recorded, unless there is one already. -/
def settle (run : Run α) : Walk (Option α) := fun progress =>
  match run.outcome with
  | .ok result => (some result, { progress with events := progress.events ++ run.events })
  | .error failure =>
    (none, {
      events := progress.events ++ run.events ++ [.stopped failure]
      failure? := progress.failure?.or (some failure) })

def pass (walk : Walk α) : Pass α :=
  let (result, progress) := walk .start
  ⟨result, progress.events, progress.failure?⟩

end Walk

/-- What a caller sees who is not interested in code that was left half done. -/
def Pass.toRun (pass : Pass α) : Run α :=
  match pass.failure? with
  | none => ⟨pass.events, .ok pass.result⟩
  | some failure => ⟨pass.events, .error failure⟩

namespace Context

def inlineSite (context : Context) (tree : Tree) : Walk Tree := do
  match Site.of? context.config tree with
  | none => return tree
  | some site => return (← Walk.settle (site.compile context)).getD tree

mutual

/-- The parts come first, so that a template takes compiled interpolations into its
replacement. -/
def inlineTree (context : Context) : Tree → Walk Tree
  | .node form parts => Walk.unlessHalted (.node form parts) do
    let parts ← inlineTrees context parts
    Walk.unlessHalted (.node form parts) (inlineSite context (.node form parts))

def inlineTrees (context : Context) : List Tree → Walk (List Tree)
  | [] => return []
  | tree :: trees => do return (← inlineTree context tree) :: (← inlineTrees context trees)

end

def inlineProgram (context : Context) (program : Program) : Walk Program := do
  return { program with items := ← inlineTrees context program.items }

def parse (context : Context) : Run Program :=
  match Program.parse? (Dialect.ofFilename context.filename) context.code with
  | some program => return program
  | none => Run.fail (.parse context.filename)

def inlined (context : Context) : Run String := do
  let program ← context.parse
  return (← (context.inlineProgram program).pass.toRun).print

/-- The same for code that was made up and stands in no file. -/
def inlinedUnplaced (context : Context) : Run String :=
  match Program.parse? ⟨false, true⟩ context.code with
  | none => Run.fail (.parse context.filename)
  | some program => return (← (context.inlineProgram program.unplaced).pass.toRun).print

end Context

end CssInline
