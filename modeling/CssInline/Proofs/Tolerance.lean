import CssInline.Proofs.Event
import CssInline.Proofs.FailStop

/-! Lenient runs. No failure to load or to process a text ends them, because what stands in for the
result can be put into code everywhere. -/

namespace CssInline

open Code

/-! What stands in for results -/

/-- A function that does nothing, in parentheses. -/
def moduleStandInTree : Tree :=
  .paren (.node (.arrow false) [.absent, .leaf .parameters, .absent, .leaf .block])

/-- An empty object, in parentheses. -/
def templateStandInTree : Tree :=
  .paren (.leaf .object)

theorem parseExpression_moduleStandIn :
    parseExpression Context.moduleStandIn = .ok moduleStandInTree := by
  have read : readScript (enclosed Context.moduleStandIn) =
      some [.node .expressionStatement [moduleStandInTree]] := by decide +kernel
  exact parseExpression_of_readScript read

theorem parseExpression_templateStandIn :
    parseExpression Context.templateStandIn.source = .ok templateStandInTree := by
  have read : readScript (enclosed Context.templateStandIn.source) =
      some [.node .expressionStatement [templateStandInTree]] := by decide +kernel
  exact parseExpression_of_readScript read

/-! Runs that tolerate -/

@[simp] theorem Event.calls_append (first second : List Event) :
    Event.calls (first ++ second) = Event.calls first ++ Event.calls second :=
  List.filterMap_append

/-- A failure of the second of two runs is all that the first leaves to fail. -/
theorem Run.bind_of_outcome {run : Run α} {next : α → Run β} {value : α} {failure : Failure}
    (outcome : run.outcome = .ok value) (fails : (run >>= next).outcome = .error failure) :
    (next value).outcome = .error failure ∧
      (run >>= next).events = run.events ++ (next value).events := by
  rw [bind_of_ok next outcome] at fails ⊢
  exact ⟨fails, rfl⟩

namespace Context

/-- The last call of the processor among `events` gave a text back that is put into code, and is not
one expression for the reason `cause`. -/
inductive Rejects (context : Context) (events : List Event) (cause : ExpressionError) : Prop
  | module (path styles output : String)
      (loaded : (context.loader context.filename path).source = .ok styles)
      (called : (Event.calls events).getLast? = some (context.filename, styles))
      (returned : context.config.processor context.filename styles = .ok output)
      (rejected : parseExpression output = .error cause)
  | template (template : Template) (output : String)
      (called : (Event.calls events).getLast? =
        some (context.filename, template.styles (Placeholder.freshStem context.code.toList)))
      (returned : context.config.processor context.filename
        (template.styles (Placeholder.freshStem context.code.toList)) = .ok output)
      (rejected : parseExpression (String.ofList (Placeholder.expose
        (Placeholder.freshStem context.code.toList) template.holes output.toList)) = .error cause)

variable {context : Context}

theorem Rejects.extend {events : List Event} {cause : ExpressionError}
    (rejects : context.Rejects events cause) (earlier later : List Event)
    (quiet : Event.calls later = []) : context.Rejects (earlier ++ events ++ later) cause := by
  have last {call : String × String} (called : (Event.calls events).getLast? = some call) :
      (Event.calls (earlier ++ events ++ later)).getLast? = some call := by
    rw [Event.calls_append, Event.calls_append, quiet, List.append_nil, List.getLast?_append,
      called, Option.some_or]
  cases rejects with
  | module path styles output loaded called returned rejected =>
    exact .module path styles output loaded (last called) returned rejected
  | template template output called returned rejected =>
    exact .template template output (last called) returned rejected

theorem tolerate_of_ok {run : Run α} {value : α} (outcome : run.outcome = .ok value)
    (position : Option Position) (fallback : α) :
    context.tolerate position fallback run = run := by
  simp only [tolerate, outcome]

theorem outcome_tolerate_of_error (lenient : context.config.strict = false) {run : Run α}
    {failure : Failure} (outcome : run.outcome = .error failure) (position : Option Position)
    (fallback : α) : (context.tolerate position fallback run).outcome = .ok fallback := by
  simp [tolerate, outcome, lenient]

theorem process_of_ok {filename styles output : String} {processor : Processor}
    (outcome : (process filename processor styles).outcome = .ok output) :
    processor filename styles = .ok output ∧
      (process filename processor styles).events = [.processed filename styles] := by
  unfold process at outcome ⊢
  rw [Run.bind_of_ok _ rfl] at outcome ⊢
  cases returned : processor filename styles with
  | ok value =>
    rw [returned] at outcome
    cases outcome
    exact ⟨rfl, rfl⟩
  | error cause =>
    rw [returned] at outcome
    cases outcome

theorem fetch_of_ok {path styles : String} (outcome : (context.fetch path).outcome = .ok styles) :
    (context.loader context.filename path).source = .ok styles ∧
      Event.calls (context.fetch path).events = [] := by
  unfold fetch at outcome ⊢
  simp only at outcome ⊢
  rw [Run.bind_of_ok _ rfl] at outcome ⊢
  cases loaded : (context.loader context.filename path).source with
  | ok value =>
    rw [loaded] at outcome
    cases outcome
    exact ⟨rfl, rfl⟩
  | error cause =>
    rw [loaded] at outcome
    cases outcome

/-- Without strictness a module always compiles to some text. If that is not one expression, then
the processor made it. -/
theorem compileModule_tolerates (lenient : context.config.strict = false) (path : String) :
    ∃ source, (context.compileModule path).outcome = .ok source ∧
      ∀ cause, parseExpression source = .error cause →
        context.Rejects (context.compileModule path).events cause := by
  unfold compileModule
  cases outcome : (context.attemptModule path).outcome with
  | error failure =>
    refine ⟨moduleStandIn, outcome_tolerate_of_error lenient outcome none moduleStandIn, ?_⟩
    intro cause rejected
    rw [parseExpression_moduleStandIn] at rejected
    cases rejected
  | ok source =>
    rw [tolerate_of_ok outcome]
    refine ⟨source, outcome, fun cause rejected => ?_⟩
    unfold attemptModule at outcome ⊢
    cases fetched : (context.fetch path).outcome with
    | error failure =>
      rw [Run.bind_of_error _ fetched] at outcome
      cases outcome
    | ok styles =>
      rw [Run.bind_of_ok _ fetched] at outcome ⊢
      obtain ⟨returned, calling⟩ := process_of_ok outcome
      obtain ⟨loaded, noCall⟩ := fetch_of_ok fetched
      refine .module path styles source loaded ?_ returned rejected
      rw [Event.calls_append, noCall, calling]
      rfl

theorem compileTemplate_tolerates (lenient : context.config.strict = false) (template : Template) :
    ∃ compiled, (context.compileTemplate template).outcome = .ok compiled ∧
      ∀ cause, parseExpression compiled.source = .error cause →
        context.Rejects (context.compileTemplate template).events cause := by
  unfold compileTemplate
  cases outcome : (template.process context.filename context.code
      context.config.processor).outcome with
  | error failure =>
    refine ⟨templateStandIn, outcome_tolerate_of_error lenient outcome _ templateStandIn, ?_⟩
    intro cause rejected
    rw [parseExpression_templateStandIn] at rejected
    cases rejected
  | ok compiled =>
    rw [tolerate_of_ok outcome]
    refine ⟨compiled, outcome, fun cause rejected => ?_⟩
    unfold Template.process at outcome ⊢
    simp only at outcome ⊢
    cases processed : (process context.filename context.config.processor
        (template.styles (Placeholder.freshStem context.code.toList))).outcome with
    | error failure =>
      rw [Run.bind_of_error _ processed] at outcome
      cases outcome
    | ok output =>
      rw [Run.bind_of_ok _ processed] at outcome ⊢
      cases outcome
      obtain ⟨returned, calling⟩ := process_of_ok processed
      refine .template template output ?_ returned rejected
      rw [calling]
      rfl

end Context

namespace Site

variable {context : Context}

theorem expressionOf_of_ok {source : String} {tree : Tree}
    (parsed : parseExpression source = .ok tree) : expressionOf source = pure tree := by
  unfold expressionOf
  rw [parsed]

theorem expressionOf_of_error {source : String} {cause : ExpressionError}
    (rejected : parseExpression source = .error cause) :
    expressionOf source = Run.fail (.expression cause) := by
  unfold expressionOf
  rw [rejected]

/-- Text that `finish` fails on is not one expression, and nothing happens there. -/
def FailsOnRejected (finish : String → Run Tree) : Prop :=
  ∀ {source failure}, (finish source).outcome = .error failure →
    ∃ cause, failure = .expression cause ∧ parseExpression source = .error cause ∧
      (finish source).events = []

theorem failsOnRejected_map (finish : Tree → Tree) :
    FailsOnRejected fun source => do return finish (← expressionOf source) := by
  intro source failure fails
  simp only at fails ⊢
  cases parsed : parseExpression source with
  | ok tree =>
    rw [expressionOf_of_ok parsed] at fails
    cases fails
  | error cause =>
    rw [expressionOf_of_error parsed] at fails ⊢
    cases fails
    exact ⟨cause, rfl, rfl, rfl⟩

theorem failsOnRejected_expressionOf : FailsOnRejected expressionOf := by
  have same : expressionOf = fun source => do return id (← expressionOf source) := by
    funext source
    exact (Run.bind_pure (expressionOf source)).symm
  rw [same]
  intro source failure fails
  exact failsOnRejected_map id fails

theorem compileModule_rejects (lenient : context.config.strict = false) {path : String}
    {finish : String → Run Tree} (only : FailsOnRejected finish) {failure : Failure}
    (fails : (context.compileModule path >>= finish).outcome = .error failure) :
    ∃ cause, failure = .expression cause ∧
      context.Rejects (context.compileModule path >>= finish).events cause := by
  obtain ⟨source, outcome, rejects⟩ := context.compileModule_tolerates lenient path
  obtain ⟨failsLater, happens⟩ := Run.bind_of_outcome outcome fails
  obtain ⟨cause, same, rejected, silent⟩ := only failsLater
  refine ⟨cause, same, ?_⟩
  rw [happens, silent]
  exact (rejects cause rejected).extend [] [] rfl

theorem compileImport_eq (context : Context) (clause : ImportClause) (name : String) :
    ∃ notes, compileImport context clause name =
      ⟨notes ++ (context.compileModule clause.source >>= fun source => do
          return constant name (← expressionOf source)).events,
        (context.compileModule clause.source >>= fun source => do
          return constant name (← expressionOf source)).outcome⟩ := by
  unfold compileImport
  split
  · exact ⟨[.specifiersDropped clause.source, .importFound clause.source name], rfl⟩
  · exact ⟨[.importFound clause.source name], rfl⟩

/-- A site that cannot be compiled without strictness holds text of the processor that is no
expression. -/
theorem compile_rejects (lenient : context.config.strict = false) {site : Site}
    {failure : Failure} (fails : (site.compile context).outcome = .error failure) :
    ∃ cause, failure = .expression cause ∧
      context.Rejects (site.compile context).events cause := by
  cases site with
  | importOf clause name =>
    obtain ⟨notes, compiled⟩ := compileImport_eq context clause name
    simp only [compile] at fails ⊢
    rw [compiled] at fails ⊢
    obtain ⟨cause, same, rejects⟩ :=
      compileModule_rejects lenient (failsOnRejected_map (constant name)) fails
    refine ⟨cause, same, ?_⟩
    have extended := rejects.extend notes [] rfl
    rwa [List.append_nil] at extended
  | require path =>
    obtain ⟨failsLater, happens⟩ := Run.bind_of_outcome rfl fails
    obtain ⟨cause, same, rejects⟩ :=
      compileModule_rejects lenient failsOnRejected_expressionOf failsLater
    refine ⟨cause, same, ?_⟩
    have extended := rejects.extend [.requireFound path] [] rfl
    rw [List.append_nil] at extended
    simp only [compile, compileRequire]
    exact happens ▸ extended
  | template template holes =>
    obtain ⟨compiled, outcome, rejects⟩ := context.compileTemplate_tolerates lenient template
    obtain ⟨failsLater, happens⟩ := Run.bind_of_outcome outcome fails
    obtain ⟨failsAtLast, happensLater⟩ := Run.bind_of_outcome rfl failsLater
    obtain ⟨cause, same, rejected, silent⟩ :=
      failsOnRejected_map (Placeholder.substitute compiled.stem holes) failsAtLast
    refine ⟨cause, same, ?_⟩
    have extended := (rejects cause rejected).extend []
      [.templateCompiled template.startLine] rfl
    simp only [compile, compileTemplate]
    rw [happens, happensLater, silent]
    exact extended

/-! Stand-ins in code -/

theorem outcome_compileRequire_of_failed (lenient : context.config.strict = false) {path : String}
    {failure : Failure} (failed : (context.attemptModule path).outcome = .error failure) :
    ((Site.require path).compile context).outcome = .ok moduleStandInTree := by
  have compiled : (context.compileModule path).outcome = .ok Context.moduleStandIn :=
    Context.outcome_tolerate_of_error lenient failed none Context.moduleStandIn
  simp only [compile, compileRequire]
  rw [Run.bind_of_ok _ rfl, Run.bind_of_ok _ compiled,
    expressionOf_of_ok parseExpression_moduleStandIn]
  rfl

theorem outcome_compileImport_of_failed (lenient : context.config.strict = false)
    {clause : ImportClause} {failure : Failure}
    (failed : (context.attemptModule clause.source).outcome = .error failure) (name : String) :
    ((Site.importOf clause name).compile context).outcome =
      .ok (constant name moduleStandInTree) := by
  have compiled : (context.compileModule clause.source).outcome = .ok Context.moduleStandIn :=
    Context.outcome_tolerate_of_error lenient failed none Context.moduleStandIn
  obtain ⟨notes, compiling⟩ := compileImport_eq context clause name
  simp only [compile]
  rw [compiling, Run.bind_of_ok _ compiled, expressionOf_of_ok parseExpression_moduleStandIn]
  rfl

/-- The stand-in of a template takes none of its interpolations in. -/
theorem outcome_compileTemplate_of_failed (lenient : context.config.strict = false)
    {template : Template} {failure : Failure}
    (failed : (template.process context.filename context.code
      context.config.processor).outcome = .error failure) (holes : List Tree) :
    ((Site.template template holes).compile context).outcome = .ok templateStandInTree := by
  have compiled : (context.compileTemplate template).outcome = .ok Context.templateStandIn :=
    Context.outcome_tolerate_of_error lenient failed _ Context.templateStandIn
  simp only [compile, compileTemplate]
  rw [Run.bind_of_ok _ compiled, Run.bind_of_ok _ rfl,
    expressionOf_of_ok parseExpression_templateStandIn]
  exact congrArg Except.ok (Placeholder.substitute_nil_stem holes templateStandInTree)

end Site

namespace Context

variable {context : Context}

/-- The last call of a pass that fails is made by the site that it stops at. -/
theorem treesPass_rejects (lenient : context.config.strict = false) {trees : List Tree}
    {failure : Failure} (failed : (context.treesPass trees).failure? = some failure) :
    ∃ cause, failure = .expression cause ∧
      context.Rejects (context.treesPass trees).events cause := by
  obtain ⟨place, form, parts, site, stops⟩ := exists_stopsAt trees failed
  obtain ⟨cause, same, rejects⟩ := Site.compile_rejects lenient stops.fails
  refine ⟨cause, same, ?_⟩
  rw [stops.pass]
  exact rejects.extend (context.happened (place.passed ++ parts)) [.stopped failure] rfl

theorem inlined_of_parsed {program : Program}
    (parsed : Program.parse? (Dialect.ofFilename context.filename) context.code = some program) :
    context.inlined =
      (context.inlineProgram program).pass.toRun >>= fun program => pure program.print := by
  have outcome : context.parse = pure program := by
    unfold parse
    rw [parsed]
  unfold inlined
  rw [outcome, Run.bind_of_ok _ rfl]
  rfl

theorem inlined_of_unparsed
    (unparsed : Program.parse? (Dialect.ofFilename context.filename) context.code = none) :
    context.inlined = Run.fail (.parse context.filename) := by
  have outcome : context.parse = Run.fail (.parse context.filename) := by
    unfold parse
    rw [unparsed]
  unfold inlined
  rw [outcome, Run.bind_of_error _ rfl]
  rfl

/-- A run without strictness fails because the file is no code, and then does nothing at all, or
because the last text that the processor returned is not one expression where it is put into code. A
failure to load or process never is the reason: the stand-ins for modules and templates can be put
in at every site, with any interpolations. -/
theorem lenient_run_fails_only_on_rejected_text (context : Context)
    (lenient : context.config.strict = false) :
    (∀ failure, context.inlined.outcome = .error failure →
      (failure = .parse context.filename ∧ context.inlined.events = [] ∧
        Program.parse? (Dialect.ofFilename context.filename) context.code = none) ∨
      ∃ cause, failure = .expression cause ∧ context.Rejects context.inlined.events cause) ∧
    (∀ path failure, (context.attemptModule path).outcome = .error failure →
      ((Site.require path).compile context).outcome = .ok moduleStandInTree ∧
      ∀ clause name, clause.source = path →
        ((Site.importOf clause name).compile context).outcome =
          .ok (Site.constant name moduleStandInTree)) ∧
    ∀ (template : Template) (holes : List Tree) (failure : Failure),
      (template.process context.filename context.code context.config.processor).outcome =
        .error failure →
      ((Site.template template holes).compile context).outcome = .ok templateStandInTree := by
  refine ⟨fun failure fails => ?_, fun path failure failed => ⟨?_, ?_⟩,
    fun template holes failure failed => ?_⟩
  -- A file that is code fails only in the pass over its items.
  · cases parsed : Program.parse? (Dialect.ofFilename context.filename) context.code with
    | none =>
      rw [inlined_of_unparsed parsed] at fails ⊢
      cases fails
      exact .inl ⟨rfl, rfl, rfl⟩
    | some program =>
      rw [inlined_of_parsed parsed] at fails ⊢
      cases failed : (context.treesPass program.items).failure? with
      | none =>
        have outcome : (context.inlineProgram program).pass.toRun.outcome =
            .ok (context.inlineProgram program).pass.result := by
          rw [Pass.toRun, pass_inlineProgram, failed]
        rw [Run.bind_of_ok _ outcome] at fails
        cases fails
      | some cause =>
        have run : (context.inlineProgram program).pass.toRun =
            ⟨(context.treesPass program.items).events, .error cause⟩ := by
          rw [Pass.toRun, pass_inlineProgram, failed]
        rw [run, Run.bind_of_error _ rfl] at fails ⊢
        cases fails
        exact .inr (treesPass_rejects lenient failed)
  · exact Site.outcome_compileRequire_of_failed lenient failed
  · intro clause name same
    exact Site.outcome_compileImport_of_failed lenient (same ▸ failed) name
  · exact Site.outcome_compileTemplate_of_failed lenient failed holes

/-- Nothing can be loaded, and of all texts the processor takes one, which it makes no code of. -/
def tolerant : Context where
  config := {
    matcher := .css
    tag := "css"
    processor := fun _ styles =>
      if styles == "b" then .ok "1 +" else .error ⟨styles, none⟩
    strict := false }
  loader := Modules.empty.loader
  filename := "a.js"
  code := "import a from './a.css'; css\x60a$\x7bf()\x7d\x60; css\x60b\x60"

theorem tolerant_fails_only_on_rejected_text :
    (Event.diagnostics tolerant.inlined.events).length = 2 ∧
      tolerant.Rejects tolerant.inlined.events (.unreadable "1 +") := by
  have reports : (Event.diagnostics tolerant.inlined.events).length = 2 := by decide +kernel
  have fails : tolerant.inlined.outcome = .error (.expression (.unreadable "1 +")) := by
    have outcome : (match tolerant.inlined.outcome with
        | .ok _ => none
        | .error failure => some failure) = some (.expression (.unreadable "1 +")) := by
      decide +kernel
    cases ran : tolerant.inlined.outcome with
    | ok code => rw [ran] at outcome; cases outcome
    | error failure => rw [ran] at outcome; cases outcome; rfl
  cases (lenient_run_fails_only_on_rejected_text tolerant rfl).1 _ fails with
  | inl unparsed => cases unparsed.1
  | inr rejected =>
    obtain ⟨cause, same, rejects⟩ := rejected
    cases same
    exact ⟨reports, rejects⟩

end Context

end CssInline
