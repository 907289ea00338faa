import CssInline.Proofs.Strictness
import CssInline.Proofs.Trace

/-! What a lenient pass reports: each failure to load or to process styles, once and in order. -/

namespace CssInline

open Code

/-! Sites that are refused -/

namespace Context

variable (context : Context)

def stylesRefusal? (styles : String) : Option Failure :=
  match context.config.processor context.filename styles with
  | .ok _ => none
  | .error cause => some (.process cause)

def moduleRefusal? (path : String) : Option Failure :=
  match (context.loader context.filename path).source with
  | .ok styles => context.stylesRefusal? styles
  | .error cause => some (.load path cause)

/-- The failure to load the styles of a site, or to process them. -/
def refusal? : Site → Option Failure
  | .importOf clause _ => context.moduleRefusal? clause.source
  | .require path => context.moduleRefusal? path
  | .template template _ =>
    context.stylesRefusal? (template.styles (Placeholder.freshStem context.code.toList))

end Context

/-- Where a site is reported. A module has no place in the file. -/
def Site.position? : Site → Option Position
  | .template styles _ => some (templatePosition styles.joined styles.startLine)
  | _ => none

/-- What is reported when a site is compiled. -/
def Context.report? (context : Context) (site : Site) : Option Diagnostic :=
  (context.refusal? site).map fun failure => ⟨failure.text, context.filename, site.position?⟩

/-! Runs that report -/

namespace Run

def failure? (run : Run α) : Option Failure :=
  match run.outcome with
  | .ok _ => none
  | .error failure => some failure

theorem failure?_bind (run : Run α) (next : α → Run β) :
    (run >>= next).failure? =
      match run.outcome with
      | .ok value => (next value).failure?
      | .error failure => some failure := by
  cases outcome : run.outcome with
  | ok value =>
    rw [bind_of_ok next outcome]
    rfl
  | error failure =>
    rw [bind_of_error next outcome]
    rfl

theorem diagnostics_bind {next : α → Run β}
    (silent : ∀ value, Event.diagnostics (next value).events = []) (run : Run α) :
    Event.diagnostics (run >>= next).events = Event.diagnostics run.events := by
  cases outcome : run.outcome with
  | ok value => rw [bind_of_ok next outcome, Event.diagnostics_append, silent, List.append_nil]
  | error failure => rw [bind_of_error next outcome]

theorem diagnostics_emit_bind {event : Event} (silent : event.diagnostic? = none)
    (next : Unit → Run β) :
    Event.diagnostics (emit event >>= next).events = Event.diagnostics (next ()).events := by
  rw [bind_of_ok next (outcome_emit event), Event.diagnostics_append, Event.diagnostics,
    events_emit, List.filterMap_cons_none silent]
  rfl

end Run

namespace Context

variable {context : Context}

theorem failure?_process (styles : String) :
    (process context.filename context.config.processor styles).failure? =
      context.stylesRefusal? styles := by
  rw [process, Run.failure?_bind, stylesRefusal?]
  cases context.config.processor context.filename styles with
  | ok source => rfl
  | error cause => rfl

theorem failure?_attemptModule (path : String) :
    (context.attemptModule path).failure? = context.moduleRefusal? path := by
  rw [attemptModule, Run.failure?_bind, moduleRefusal?, fetch]
  cases loaded : (context.loader context.filename path).source with
  | ok styles =>
    rw [Run.bind_of_ok _ (Run.outcome_emit _)]
    exact failure?_process styles
  | error cause =>
    rw [Run.bind_of_ok _ (Run.outcome_emit _)]
    rfl

theorem diagnostics_tolerate (lenient : context.config.strict = false)
    (position : Option Position) (fallback : α) {run : Run α}
    (silent : Event.diagnostics run.events = []) :
    Event.diagnostics (context.tolerate position fallback run).events =
      (run.failure?.map fun failure => ⟨failure.text, context.filename, position⟩).toList := by
  rw [tolerate, Run.failure?]
  cases outcome : run.outcome with
  | ok value => exact silent
  | error failure =>
    simp only [lenient]
    rw [if_neg Bool.false_ne_true, Event.diagnostics_append, silent]
    rfl

theorem failure?_template (template : Template) :
    (template.process context.filename context.code context.config.processor).failure? =
      context.stylesRefusal?
        (template.styles (Placeholder.freshStem context.code.toList)) := by
  rw [Template.process, Run.failure?_bind, ← failure?_process, Run.failure?]
  cases (process context.filename context.config.processor
    (template.styles (Placeholder.freshStem context.code.toList))).outcome with
  | ok output => rfl
  | error failure => rfl

end Context

/-! Sites and passes -/

namespace Site

variable {context : Context}

theorem diagnostics_expressionOf (source : String) :
    Event.diagnostics (expressionOf source).events = [] :=
  Run.Emits.diagnostics_eq_nil (emits_expressionOf source)

theorem diagnostics_map_expressionOf (finish : Tree → Tree) (source : String) :
    Event.diagnostics (do return finish (← expressionOf source) : Run Tree).events = [] := by
  rw [Run.diagnostics_bind fun _ => rfl]
  exact diagnostics_expressionOf source

/-- A site is reported just if it is refused, whatever is put in its place. -/
theorem diagnostics_compile (lenient : context.config.strict = false) (site : Site) :
    Event.diagnostics (site.compile context).events = (context.report? site).toList := by
  have module (path : String) :
      Event.diagnostics (context.compileModule path).events =
        ((context.moduleRefusal? path).map fun failure =>
          ⟨failure.text, context.filename, none⟩).toList := by
    rw [Context.compileModule, Context.diagnostics_tolerate lenient none _
      (context.diagnostics_attemptModule path), Context.failure?_attemptModule]
  cases site with
  | importOf clause name =>
    have compiling : Event.diagnostics (do
          Run.emit (.importFound clause.source name)
          let source ← context.compileModule clause.source
          return constant name (← expressionOf source) : Run Tree).events =
        (context.report? (.importOf clause name)).toList := by
      rw [Run.diagnostics_emit_bind rfl,
        Run.diagnostics_bind (diagnostics_map_expressionOf (constant name))]
      exact module clause.source
    rw [compile, compileImport]
    split
    · rw [Run.diagnostics_emit_bind rfl]
      exact compiling
    · exact compiling
  | require path =>
    rw [compile, compileRequire, Run.diagnostics_emit_bind rfl,
      Run.diagnostics_bind diagnostics_expressionOf]
    exact module path
  | template template holes =>
    have silent (compiled : Compiled) : Event.diagnostics (do
        Run.emit (.templateCompiled template.startLine)
        return Placeholder.substitute compiled.stem holes (← expressionOf compiled.source) :
          Run Tree).events = [] := by
      rw [Run.diagnostics_emit_bind rfl]
      exact diagnostics_map_expressionOf _ compiled.source
    rw [compile, compileTemplate, Run.diagnostics_bind silent, Context.compileTemplate,
      Context.diagnostics_tolerate lenient _ _ (Context.diagnostics_process template _ _ _),
      Context.failure?_template]
    rfl

end Site

namespace Context

variable {context : Context}

theorem diagnostics_compiling (lenient : context.config.strict = false) (sites : List Site) :
    Event.diagnostics (context.compiling sites) = sites.filterMap context.report? := by
  induction sites with
  | nil => rfl
  | cons site sites ih =>
    rw [compiling, List.flatMap_cons, Event.diagnostics_append, Site.diagnostics_compile lenient,
      ← compiling, ih]
    cases reported : context.report? site with
    | none => exact (List.filterMap_cons_none reported).symm
    | some diagnostic => exact (List.filterMap_cons_some reported).symm

theorem ComesBy.diagnostics {trees done left : List Tree} (comes : context.ComesBy trees done left)
    (lenient : context.config.strict = false) :
    Event.diagnostics (context.treesPass trees).events =
      (context.sitesAt done).filterMap context.report? := by
  have silent (failure? : Option Failure) :
      Event.diagnostics (failure?.map Event.stopped).toList = [] := by
    cases failure? with
    | none => rfl
    | some failure => rfl
  rw [comes.happens, Event.diagnostics_append, diagnostics_compiling lenient, silent,
    List.append_nil]

/-- What a lenient pass reports. The pass compiles the sites among the nodes that it comes by, in
order, each once its parts are done, and nothing else happens. It comes by all nodes unless the last
one fails to become an expression. What it reports are the refusals of these sites, one for each
site whose styles cannot be loaded or processed, in the same order, and none for any other site:
with the text of the failure and the name of the file, and for a template with its place. -/
theorem lenient_pass_reports_each_refusal_once (context : Context)
    (lenient : context.config.strict = false) (program : Program) :
    ∃ done left : List Tree,
      Tree.nodesOf program.items = done ++ left ∧
      ((context.inlineProgram program).pass.failure? = none → left = []) ∧
      (∀ failure, (context.inlineProgram program).pass.failure? = some failure →
        ∃ earlier node site, done = earlier ++ [node] ∧ context.siteAt? node = some site ∧
          (site.compile context).outcome = .error failure) ∧
      (context.inlineProgram program).pass.events =
        ((done.filterMap context.siteAt?).flatMap fun site => (site.compile context).events) ++
          ((context.inlineProgram program).pass.failure?.map Event.stopped).toList ∧
      Event.diagnostics (context.inlineProgram program).pass.events =
        (done.filterMap context.siteAt?).filterMap fun site =>
          (context.refusal? site).map fun failure =>
            ⟨failure.text, context.filename, site.position?⟩ := by
  obtain ⟨done, left, comes⟩ := context.exists_comesBy program.items
  rw [pass_inlineProgram]
  exact ⟨done, left, comes.order, comes.whole, comes.stops, comes.happens,
    comes.diagnostics lenient⟩

/-- One module can be loaded, and of all texts the processor takes two. It makes no code of one of
them. -/
def grudging : Context where
  config := {
    matcher := .css
    tag := "css"
    processor := fun _ styles =>
      if styles == "a" then .ok "1" else if styles == "b" then .ok "1 +" else
        .error ⟨styles, some ⟨3, 7⟩⟩
    strict := false }
  loader := (Modules.ofList [("./c.css", "c")]).loader
  filename := "a.js"
  code := "import d from './d.css';\nrequire('./c.css');\ncss`a`;\n" ++
    "css`\n  e$\x7bcss`f`\x7dg`;\ncss`b`;\ncss`h`;"

def begrudged : Program :=
  (Program.parse? (Dialect.ofFilename grudging.filename) grudging.code).getD ⟨none, []⟩

/-- The refusals of `begrudged`: the template inside the other is reported before it. -/
def begrudgedReports : List Diagnostic :=
  [⟨"failed to load `./d.css`: no module registered for `./d.css`", "a.js", none⟩,
    ⟨"c (3:7)", "a.js", none⟩,
    ⟨"f (3:7)", "a.js", some ⟨5, 0⟩⟩,
    ⟨"\n  e__css_hole_0g (3:7)", "a.js", some ⟨3, 2⟩⟩]

/-- The pass stops at the template `b`, whose result is no code, and so never comes by the last. -/
theorem grudging_reports_each_refusal_once :
    ∃ done left : List Tree, Tree.nodesOf begrudged.items = done ++ left ∧
      ((done.filterMap grudging.siteAt?).filterMap fun site =>
          (grudging.refusal? site).map fun failure =>
            (⟨failure.text, grudging.filename, site.position?⟩ : Diagnostic)) =
        begrudgedReports := by
  have reports : Event.diagnostics (grudging.inlineProgram begrudged).pass.events =
      begrudgedReports := by decide +kernel
  obtain ⟨done, left, order, _, _, _, same⟩ :=
    lenient_pass_reports_each_refusal_once grudging rfl begrudged
  exact ⟨done, left, order, same.symm.trans reports⟩

end Context

end CssInline
