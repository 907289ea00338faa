import CssInline.Proofs.Event
import CssInline.Proofs.Walk

/-! Strict runs against lenient ones. A strict run does as the lenient one does until the first
report, and ends there with the failure that is reported. -/

namespace CssInline

open Code

/-- `strict` does what `lenient` does: all of it, if nothing is reported there, and else what comes
before the first report. -/
inductive Run.CutsShort (strict lenient : Run α) : Prop
  | whole (silent : Event.diagnostics lenient.events = []) (same : strict = lenient)
  | cut (before after ending : List Event) (diagnostic : Diagnostic) (failure : Failure)
      (silent : Event.diagnostics before = [])
      (reports : lenient.events = before ++ .reported diagnostic :: after)
      (stops : strict.events = before ++ ending)
      (quiet : Event.AreQuiet ending)
      (fails : strict.outcome = .error failure)
      (text : failure.text = diagnostic.message)

namespace Run

theorem CutsShort.of_silent {run : Run α} (silent : Event.diagnostics run.events = []) :
    run.CutsShort run :=
  .whole silent rfl

theorem CutsShort.bind {strict lenient : Run α} {strictNext lenientNext : α → Run β}
    (first : strict.CutsShort lenient)
    (next : ∀ value, (strictNext value).CutsShort (lenientNext value)) :
    (strict >>= strictNext).CutsShort (lenient >>= lenientNext) := by
  cases first with
  | whole silent same =>
    subst same
    cases outcome : strict.outcome with
    | error failure =>
      rw [bind_of_error strictNext outcome, bind_of_error lenientNext outcome]
      exact .whole silent rfl
    | ok value =>
      rw [bind_of_ok strictNext outcome, bind_of_ok lenientNext outcome]
      cases next value with
      | whole silentNext same =>
        refine .whole ?_ (by rw [same])
        rw [Event.diagnostics_append, silent, silentNext, List.append_nil]
      | cut before after ending diagnostic failure silentBefore reports stops quiet fails text =>
        refine .cut (strict.events ++ before) after ending diagnostic failure ?_ ?_ ?_ quiet fails
          text
        · rw [Event.diagnostics_append, silent, silentBefore, List.append_nil]
        · rw [reports, List.append_assoc]
        · rw [stops, List.append_assoc]
  | cut before after ending diagnostic failure silent reports stops quiet fails text =>
    rw [bind_of_error strictNext fails]
    cases outcome : lenient.outcome with
    | error other =>
      rw [bind_of_error lenientNext outcome]
      exact .cut before after ending diagnostic failure silent reports stops quiet rfl text
    | ok value =>
      rw [bind_of_ok lenientNext outcome]
      refine .cut before (after ++ (lenientNext value).events) ending diagnostic failure silent ?_
        stops quiet rfl text
      rw [reports, List.append_assoc, List.cons_append]

end Run

/-! Passes as runs -/

namespace Pass

/-- A run that records its failure as a stop. -/
def recorded (run : Run α) : Run α :=
  match run.outcome with
  | .ok _ => run
  | .error failure => ⟨run.events ++ [.stopped failure], .error failure⟩

theorem events_toRun (pass : Pass α) : pass.toRun.events = pass.events := by
  rw [toRun]
  cases pass.failure? with
  | none => rfl
  | some failure => rfl

theorem toRun_done (result : α) : (done result).toRun = pure result := rfl

theorem toRun_andThen (pass : Pass α) (unchanged : α → β) (next : α → Pass β) :
    (pass.andThen unchanged next).toRun = pass.toRun >>= fun result => (next result).toRun := by
  cases failed : pass.failure? with
  | none =>
    have run : pass.toRun = ⟨pass.events, .ok pass.result⟩ := by simp only [toRun, failed]
    rw [andThen_of_none failed, run, Run.bind_of_ok _ rfl]
    cases later : (next pass.result).failure? with
    | none => simp only [toRun, later]
    | some failure => simp only [toRun, later]
  | some failure =>
    have run : pass.toRun = ⟨pass.events, .error failure⟩ := by simp only [toRun, failed]
    rw [andThen_of_some failed, run, Run.bind_of_error _ rfl]
    rfl

theorem toRun_ofRun (kept : α) (run : Run α) : (ofRun kept run).toRun = recorded run := by
  cases outcome : run.outcome with
  | ok result =>
    rw [ofRun_of_ok kept outcome]
    simp only [toRun, recorded, outcome]
    rw [← outcome]
  | error failure =>
    rw [ofRun_of_error kept outcome]
    simp only [toRun, recorded, outcome]

end Pass

theorem Run.CutsShort.recorded {strict lenient : Run α} (cuts : strict.CutsShort lenient) :
    (Pass.recorded strict).CutsShort (Pass.recorded lenient) := by
  cases cuts with
  | whole silent same =>
    subst same
    refine .of_silent ?_
    unfold Pass.recorded
    split
    · exact silent
    · rw [Event.diagnostics_append, silent]
      rfl
  | cut before after ending diagnostic failure silent reports stops quiet fails text =>
    have strictRun : Pass.recorded strict =
        ⟨before ++ (ending ++ [.stopped failure]), .error failure⟩ := by
      simp only [Pass.recorded, fails, stops, List.append_assoc]
    obtain ⟨more, lenientRun⟩ : ∃ more,
        (Pass.recorded lenient).events = before ++ .reported diagnostic :: (after ++ more) := by
      unfold Pass.recorded
      split
      · exact ⟨[], by rw [reports, List.append_nil]⟩
      · exact ⟨_, by rw [reports, List.append_assoc, List.cons_append]⟩
    rw [strictRun]
    refine .cut before (after ++ more) (ending ++ [.stopped failure]) diagnostic failure silent
      lenientRun rfl ⟨?_, ?_⟩ rfl text
    · rw [Event.diagnostics_append, quiet.1]
      rfl
    · rw [Event.requests_append, quiet.2]
      rfl

/-! Contexts that differ in how strict they are -/

def Config.withStrict (config : Config) (strict : Bool) : Config :=
  { config with strict }

def Context.withStrict (context : Context) (strict : Bool) : Context :=
  { context with config := context.config.withStrict strict }

theorem Config.ofOptions?_strict (options : Options) (processor : Processor) (strict : Bool) :
    Config.ofOptions? { options with strict } processor =
      (Config.ofOptions? options processor).map (Config.withStrict · strict) := by
  unfold Config.ofOptions?
  rw [Option.map_map]
  rfl

theorem Run.Emits.diagnostics_eq_nil {run : Run α}
    (silent : run.Emits fun event => event.diagnostic? = none) :
    Event.diagnostics run.events = [] :=
  List.filterMap_eq_nil_iff.mpr silent

namespace Context

variable (context : Context)

theorem cutsShort_tolerate (position : Option Position) (fallback : α) {run : Run α}
    (silent : Event.diagnostics run.events = []) :
    ((context.withStrict true).tolerate position fallback run).CutsShort
      ((context.withStrict false).tolerate position fallback run) := by
  cases outcome : run.outcome with
  | ok value =>
    simp only [tolerate, outcome]
    exact .of_silent silent
  | error failure =>
    simp only [tolerate, outcome, withStrict, Config.withStrict]
    refine .cut run.events [] [] _ failure silent rfl ?_ Event.areQuiet_nil outcome rfl
    exact (List.append_nil run.events).symm

theorem diagnostics_attemptModule (path : String) :
    Event.diagnostics (context.attemptModule path).events = [] := by
  apply Run.Emits.diagnostics_eq_nil
  exact Run.Emits.bind (context.emits_fetch path fun _ => by rfl) fun styles =>
    emits_process _ _ styles (by rfl)

theorem diagnostics_process (template : Template) (filename code : String) (processor : Processor) :
    Event.diagnostics (template.process filename code processor).events = [] := by
  apply Run.Emits.diagnostics_eq_nil
  exact Run.Emits.bind (emits_process _ _ _ (by rfl)) fun _ => Run.emits_pure _

theorem cutsShort_compileModule (path : String) :
    ((context.withStrict true).compileModule path).CutsShort
      ((context.withStrict false).compileModule path) :=
  context.cutsShort_tolerate none moduleStandIn (context.diagnostics_attemptModule path)

theorem cutsShort_compileTemplate (template : Template) :
    ((context.withStrict true).compileTemplate template).CutsShort
      ((context.withStrict false).compileTemplate template) :=
  context.cutsShort_tolerate _ templateStandIn
    (diagnostics_process template context.filename context.code context.config.processor)

end Context

theorem Run.CutsShort.emit {event : Event} (silent : event.diagnostic? = none) :
    (Run.emit event).CutsShort (Run.emit event) :=
  .of_silent (Run.Emits.diagnostics_eq_nil (Run.emits_emit silent))

theorem Run.CutsShort.pure (value : α) : CutsShort (Pure.pure value) (Pure.pure value) :=
  .of_silent rfl

namespace Site

variable (context : Context)

theorem of?_withStrict (config : Config) (strict : Bool) (tree : Tree) :
    Site.of? (config.withStrict strict) tree = Site.of? config tree := rfl

theorem cutsShort_expressionOf (source : String) :
    (expressionOf source).CutsShort (expressionOf source) :=
  .of_silent (Run.Emits.diagnostics_eq_nil (emits_expressionOf source))

theorem cutsShort_compile (site : Site) :
    (site.compile (context.withStrict true)).CutsShort
      (site.compile (context.withStrict false)) := by
  cases site with
  | importOf clause name =>
    have compiling : Run.CutsShort
        (do
          Run.emit (.importFound clause.source name)
          let source ← (context.withStrict true).compileModule clause.source
          return constant name (← expressionOf source))
        (do
          Run.emit (.importFound clause.source name)
          let source ← (context.withStrict false).compileModule clause.source
          return constant name (← expressionOf source)) :=
      (Run.CutsShort.emit rfl).bind fun _ =>
        (context.cutsShort_compileModule clause.source).bind fun source =>
          (cutsShort_expressionOf source).bind fun tree => .pure (constant name tree)
    simp only [compile, compileImport]
    split
    · exact (Run.CutsShort.emit rfl).bind fun _ => compiling
    · exact compiling
  | require path =>
    exact (Run.CutsShort.emit rfl).bind fun _ =>
      (context.cutsShort_compileModule path).bind cutsShort_expressionOf
  | template template holes =>
    exact (context.cutsShort_compileTemplate template).bind fun compiled =>
      (Run.CutsShort.emit rfl).bind fun _ =>
        (cutsShort_expressionOf compiled.source).bind fun tree => .pure _

end Site

/-! Whole walks -/

namespace Context

variable (context : Context)

theorem cutsShort_sitePass (tree : Tree) :
    ((context.withStrict true).sitePass tree).toRun.CutsShort
      ((context.withStrict false).sitePass tree).toRun := by
  have same (strict : Bool) :
      Site.of? (context.withStrict strict).config tree = Site.of? context.config tree :=
    Site.of?_withStrict context.config strict tree
  unfold sitePass
  rw [same, same]
  cases Site.of? context.config tree with
  | none => exact .pure tree
  | some site =>
    simp only [Pass.toRun_ofRun]
    exact (Site.cutsShort_compile context site).recorded

mutual

theorem cutsShort_treePass : (tree : Tree) →
    ((context.withStrict true).treePass tree).toRun.CutsShort
      ((context.withStrict false).treePass tree).toRun
  | .node form parts => by
    simp only [treePass_node, Pass.toRun_andThen]
    exact (cutsShort_treesPass parts).bind fun parts =>
      context.cutsShort_sitePass (.node form parts)

theorem cutsShort_treesPass : (trees : List Tree) →
    ((context.withStrict true).treesPass trees).toRun.CutsShort
      ((context.withStrict false).treesPass trees).toRun
  | [] => .pure []
  | tree :: trees => by
    simp only [treesPass_cons, Pass.toRun_andThen, Pass.toRun_done]
    exact (cutsShort_treePass tree).bind fun tree =>
      (cutsShort_treesPass trees).bind fun trees => .pure (tree :: trees)

end

theorem toRun_inlineProgram (program : Program) :
    (context.inlineProgram program).pass.toRun =
      (context.treesPass program.items).toRun >>= fun items =>
        pure { program with items } := by
  have taken : (context.inlineProgram program).pass =
      (context.treesPass program.items).andThen (fun items => { program with items }) fun items =>
        .done { program with items } := by
    rw [pass_inlineProgram]
    cases failed : (context.treesPass program.items).failure? with
    | none => rw [Pass.andThen_of_none failed]; simp [Pass.done]
    | some failure => rw [Pass.andThen_of_some failed]
  rw [taken, Pass.toRun_andThen]
  rfl

theorem cutsShort_inlined :
    (context.withStrict true).inlined.CutsShort (context.withStrict false).inlined := by
  have parsed : context.parse.CutsShort context.parse := by
    unfold parse
    split
    · exact .pure _
    · exact .of_silent rfl
  refine Run.CutsShort.bind parsed fun program => ?_
  refine Run.CutsShort.bind ?_ fun program => .pure program.print
  rw [toRun_inlineProgram, toRun_inlineProgram]
  exact (context.cutsShort_treesPass program.items).bind fun items => .pure { program with items }

end Context

/-- What options, a processor, a loader and a file come to, under either policy for failures. The
strict run does not report anything and only makes calls that the lenient run makes too, in the same
order. Its outcome is that of the lenient run if nothing is reported there, and else a failure with
the text of the first report. -/
theorem strict_run_cuts_lenient_run_short (options : Options) (processor : Processor)
    (loader : Loader) (filename code : String) {strict lenient : Config}
    (strictly : Config.ofOptions? { options with strict := true } processor = some strict)
    (leniently : Config.ofOptions? { options with strict := false } processor = some lenient) :
    let stopping := (Context.mk strict loader filename code).inlined
    let tolerant := (Context.mk lenient loader filename code).inlined
    Event.diagnostics stopping.events = [] ∧
    Event.requests stopping.events <+: Event.requests tolerant.events ∧
    match Event.diagnostics tolerant.events with
    | [] => stopping.outcome = tolerant.outcome
    | diagnostic :: _ =>
      ∃ failure, stopping.outcome = .error failure ∧ failure.text = diagnostic.message := by
  intro stopping tolerant
  rw [Config.ofOptions?_strict] at strictly leniently
  obtain ⟨config, made, rfl⟩ := Option.map_eq_some_iff.mp strictly
  rw [made] at leniently
  cases leniently
  cases (Context.mk config loader filename code).cutsShort_inlined with
  | whole silent same =>
    change stopping = tolerant at same
    change Event.diagnostics tolerant.events = [] at silent
    rw [same, silent]
    exact ⟨rfl, List.prefix_rfl, rfl⟩
  | cut before after ending diagnostic failure silent reports stops quiet fails text =>
    change stopping.events = before ++ ending at stops
    change tolerant.events = before ++ .reported diagnostic :: after at reports
    have reported : Event.diagnostics (.reported diagnostic :: after) =
        diagnostic :: Event.diagnostics after := rfl
    refine ⟨?_, ?_, ?_⟩
    · rw [stops, Event.diagnostics_append, silent, quiet.1]
      rfl
    · rw [stops, reports, Event.requests_append, Event.requests_append, quiet.2, List.append_nil]
      exact List.prefix_append _ _
    · rw [reports, Event.diagnostics_append, silent, reported]
      exact ⟨failure, fails, text⟩

/-- Takes one text and refuses all others. -/
def picky : Processor := fun _ styles =>
  if styles == "a" then .ok "1" else .error ⟨styles, none⟩

def pickyConfig (strict : Bool) : Config :=
  ⟨.css, "css", picky, strict⟩

theorem pickyConfig_made (strict : Bool) :
    Config.ofOptions? { strict } picky = some (pickyConfig strict) := rfl

/-- Of the three templates in the file the lenient run reports the last two. -/
theorem strict_run_cuts_lenient_run_short_of_refusals :
    let run (strict : Bool) : Run String :=
      (Context.mk (pickyConfig strict) Modules.empty.loader "f.js"
        "css`a`; css`b`; css`c`").inlined
    Event.diagnostics (run false).events =
        [⟨"b", "f.js", some ⟨1, 0⟩⟩, ⟨"c", "f.js", some ⟨1, 0⟩⟩] ∧
      Event.diagnostics (run true).events = [] ∧
      Event.requests (run true).events <+: Event.requests (run false).events ∧
      ∃ failure, (run true).outcome = .error failure ∧ failure.text = "b" := by
  intro run
  have reports : Event.diagnostics (run false).events =
      [⟨"b", "f.js", some ⟨1, 0⟩⟩, ⟨"c", "f.js", some ⟨1, 0⟩⟩] := by decide +kernel
  obtain ⟨silent, requests, outcome⟩ := strict_run_cuts_lenient_run_short {} picky
    Modules.empty.loader "f.js" "css`a`; css`b`; css`c`"
    (pickyConfig_made true) (pickyConfig_made false)
  change match Event.diagnostics (run false).events with
    | [] => (run true).outcome = (run false).outcome
    | diagnostic :: _ =>
      ∃ failure, (run true).outcome = .error failure ∧ failure.text = diagnostic.message at outcome
  rw [reports] at outcome
  exact ⟨reports, silent, requests, outcome⟩

end CssInline
