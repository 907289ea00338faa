import CssInline.Proofs.Requests
import CssInline.Proofs.Tolerance

/-! What a pass loads. The paths stand in the code, unless generated code completes a call of
`require`. -/

namespace CssInline

open Code

def Failure.isLoad : Failure → Bool
  | .load _ _ => true
  | _ => false

/-! Failures of runs -/

/-- The run fails in allowed ways only. -/
def Run.FailsOnly (allowed : Failure → Prop) (run : Run α) : Prop :=
  ∀ ⦃failure⦄, run.outcome = .error failure → allowed failure

namespace Run

variable {allowed : Failure → Prop}

theorem failsOnly_pure (value : α) : FailsOnly allowed (pure value) := by
  intro failure fails
  cases fails

theorem failsOnly_emit (event : Event) : FailsOnly allowed (emit event) := by
  intro failure fails
  cases fails

theorem failsOnly_fail {failure : Failure} (permitted : allowed failure) :
    FailsOnly allowed (fail failure : Run α) := by
  intro other fails
  cases fails
  exact permitted

theorem FailsOnly.mono {allowed' : Failure → Prop} {run : Run α} (fails : run.FailsOnly allowed)
    (weaker : ∀ failure, allowed failure → allowed' failure) : run.FailsOnly allowed' :=
  fun failure outcome => weaker failure (fails outcome)

theorem FailsOnly.bind {run : Run α} {next : α → Run β} (first : run.FailsOnly allowed)
    (second : ∀ value, (next value).FailsOnly allowed) : FailsOnly allowed (run >>= next) := by
  intro failure fails
  cases outcome : run.outcome with
  | ok value =>
    rw [bind_of_ok next outcome] at fails
    exact second value fails
  | error cause =>
    rw [bind_of_error next outcome] at fails
    cases fails
    exact first outcome

end Run

namespace Context

variable (context : Context)

/-- Whether a pass ends at a module because that cannot be loaded. -/
def endsAt (path : String) : Bool :=
  context.config.strict && (context.loader context.filename path).source matches .error _

/-- The paths up to the first one that a pass ends at. -/
def loaded : List String → List String
  | [] => []
  | path :: paths => path :: if context.endsAt path then [] else loaded paths

variable {context}

theorem loaded_of_goes {paths : List String} (goes : ∀ path ∈ paths, context.endsAt path = false) :
    context.loaded paths = paths := by
  induction paths with
  | nil => rfl
  | cons path paths ih =>
    have later := ih fun other member => goes other (List.mem_cons_of_mem path member)
    rw [loaded, goes path List.mem_cons_self, later]
    rfl

theorem loaded_of_ends {earlier : List String} {path : String}
    (goes : ∀ path ∈ earlier, context.endsAt path = false) (ends : context.endsAt path = true)
    (later : List String) : context.loaded (earlier ++ path :: later) = earlier ++ [path] := by
  induction earlier with
  | nil =>
    rw [List.nil_append, loaded, ends]
    rfl
  | cons first earlier ih =>
    have rest := ih fun other member => goes other (List.mem_cons_of_mem first member)
    rw [List.cons_append, loaded, goes first List.mem_cons_self, rest]
    rfl

/-! Sites that end a pass -/

theorem failsOnly_process (filename : String) (processor : Processor) (styles : String) :
    (process filename processor styles).FailsOnly fun failure => failure.isLoad = false := by
  refine (Run.failsOnly_emit _).bind fun _ => ?_
  split
  · exact Run.failsOnly_pure _
  · exact Run.failsOnly_fail rfl

theorem failsOnly_tolerate {allowed : Failure → Prop} {run : Run α} (fails : run.FailsOnly allowed)
    (position : Option Position) (fallback : α) :
    (context.tolerate position fallback run).FailsOnly fun failure =>
      context.config.strict = true ∧ allowed failure := by
  intro failure outcome
  unfold tolerate at outcome
  split at outcome
  · rename_i succeeds
    rw [succeeds] at outcome
    cases outcome
  · split at outcome
    · rename_i strict
      exact ⟨strict, fails outcome⟩
    · cases outcome

theorem failsOnly_fetch (path : String) :
    (context.fetch path).FailsOnly fun _ =>
      (context.loader context.filename path).source matches .error _ := by
  refine (Run.failsOnly_emit _).bind fun _ => ?_
  cases (context.loader context.filename path).source with
  | ok styles => exact Run.failsOnly_pure styles
  | error cause => exact Run.failsOnly_fail rfl

theorem failsOnly_compileModule (path : String) :
    (context.compileModule path).FailsOnly fun failure =>
      failure.isLoad = true → context.endsAt path = true := by
  have attempt : (context.attemptModule path).FailsOnly fun failure => failure.isLoad = true →
      (context.loader context.filename path).source matches .error _ := by
    refine Run.FailsOnly.bind ((failsOnly_fetch path).mono fun _ fails _ => fails) fun styles => ?_
    refine (failsOnly_process _ _ styles).mono fun failure other isLoad => ?_
    rw [other] at isLoad
    cases isLoad
  refine (failsOnly_tolerate attempt none moduleStandIn).mono ?_
  rintro failure ⟨strict, unloaded⟩ isLoad
  rw [endsAt, strict, unloaded isLoad]
  rfl

theorem failsOnly_compileTemplate (template : Template) :
    (context.compileTemplate template).FailsOnly fun failure => failure.isLoad = false := by
  have attempt : (template.process context.filename context.code
      context.config.processor).FailsOnly fun failure => failure.isLoad = false :=
    (failsOnly_process _ _ _).bind fun _ => Run.failsOnly_pure _
  exact (failsOnly_tolerate attempt _ templateStandIn).mono fun _ fails => fails.2

theorem compileModule_of_endsAt {path : String} (ends : context.endsAt path = true) :
    ∃ failure, (context.compileModule path).outcome = .error failure := by
  obtain ⟨strict, unloaded⟩ := Bool.and_eq_true_iff.mp ends
  cases loads : (context.loader context.filename path).source with
  | ok styles => rw [loads] at unloaded; cases unloaded
  | error cause =>
    have fetching : (context.fetch path).outcome = .error (.load path cause) := by
      unfold fetch
      dsimp only
      rw [loads]
      rfl
    have attempt : (context.attemptModule path).outcome = .error (.load path cause) := by
      unfold attemptModule
      rw [Run.bind_of_error _ fetching]
    refine ⟨.load path cause, ?_⟩
    simp only [compileModule, tolerate, attempt, strict]
    exact attempt

end Context

namespace Site

variable {context : Context}

theorem failsOnly_expressionOf (source : String) :
    (expressionOf source).FailsOnly fun failure => failure.isLoad = false := by
  unfold expressionOf
  split
  · exact Run.failsOnly_pure _
  · exact Run.failsOnly_fail rfl

/-- Only the module that is asked for can be missing. -/
theorem failsOnly_compile (site : Site) :
    (site.compile context).FailsOnly fun failure => failure.isLoad = true →
      ∃ path, site.request.path? = some path ∧ context.endsAt path = true := by
  have refuted {failure : Failure} {conclusion : Prop} (other : failure.isLoad = false)
      (isLoad : failure.isLoad = true) : conclusion := by
    rw [other] at isLoad
    cases isLoad
  have module (path : String) {asked : Site} (asks : asked.request.path? = some path) :
      (context.compileModule path).FailsOnly fun failure => failure.isLoad = true →
        ∃ path, asked.request.path? = some path ∧ context.endsAt path = true :=
    (context.failsOnly_compileModule path).mono fun _ ends isLoad => ⟨path, asks, ends isLoad⟩
  have expression (source : String) {conclusion : Prop} :
      (expressionOf source).FailsOnly fun failure => failure.isLoad = true → conclusion :=
    (failsOnly_expressionOf source).mono fun _ other => refuted other
  cases site with
  | importOf clause name =>
    obtain ⟨notes, compiled⟩ := compileImport_eq context clause name
    intro failure fails
    rw [compile, compiled] at fails
    exact (module clause.source rfl).bind (fun source => (expression source).bind fun _ =>
      Run.failsOnly_pure _) fails
  | require path =>
    exact (Run.failsOnly_emit _).bind fun _ =>
      (module path rfl).bind fun source => expression source
  | template template holes =>
    refine Run.FailsOnly.bind ((context.failsOnly_compileTemplate template).mono fun _ other =>
      refuted other) fun compiled => ?_
    exact (Run.failsOnly_emit _).bind fun _ => (expression _).bind fun _ => Run.failsOnly_pure _

theorem compile_of_endsAt {site : Site} {path : String} (asks : site.request.path? = some path)
    (ends : context.endsAt path = true) :
    ∃ failure, (site.compile context).outcome = .error failure := by
  obtain ⟨failure, fails⟩ := Context.compileModule_of_endsAt ends
  refine ⟨failure, ?_⟩
  cases site with
  | importOf clause name =>
    cases asks
    obtain ⟨notes, compiled⟩ := compileImport_eq context clause name
    rw [compile, compiled, Run.bind_of_error _ fails]
  | require path =>
    cases asks
    rw [compile, compileRequire, Run.bind_of_ok _ rfl, Run.bind_of_error _ fails]
  | template template holes => cases asks

end Site

/-! Modules that the code asks for -/

namespace Config

variable (config : Config)

/-- The module that a node asks for. -/
def path? (node : Tree) : Option String :=
  (Site.of? config node).bind fun site => site.request.path?

/-- The modules that code asks for, in order. -/
def paths (trees : List Tree) : List String :=
  (Tree.nodesOf trees).filterMap config.path?

/-- Whether the node is no site, but a call that generated code can complete to one. -/
def isOpen : Tree → Bool
  | .node (.call .none) parts =>
    config.isReplaceable (.node (.call .none) parts) &&
      (Site.of? config (.node (.call .none) parts)).isNone
  | _ => false

end Config

namespace Context

variable {context : Context}

theorem path?_siteAt? {node : Tree} (closed : context.config.isOpen node = false) :
    ((context.siteAt? node).bind fun site => site.request.path?) = context.config.path? node := by
  by_cases isSite : context.config.IsSite node
  · rw [siteAt?_of_isSite isSite, Option.bind_map, Config.path?]
    congr
    funext site
    cases site <;> rfl
  · rw [Config.path?, Site.of?_eq_none_iff.mpr isSite, Option.bind_none]
    cases found : context.siteAt? node with
    | none => rfl
    | some site =>
      have replaceable := isReplaceable_of_siteAt? node (by rw [found]; rfl)
      obtain ⟨form, parts⟩ := node
      obtain ⟨done, isDone⟩ : ∃ done, parts.map context.finished = done := ⟨_, rfl⟩
      rw [siteAt?, isDone] at found
      have completed : context.config.IsSite (.node form done) :=
        Site.isSome_of?_iff.mp (by rw [found]; rfl)
      cases completed with
      | importOf loads names managed => exact absurd (.importOf loads names managed) isSite
      | require managed =>
        simp [Config.isOpen, replaceable, Site.of?_eq_none_iff.mpr isSite] at closed
      | template =>
        simp only [Site.of?, Site.ofTagged?, beq_self_eq_true, if_pos, Option.some_inj] at found
        rw [← found]
        rfl

/-- Over nodes that generated code cannot complete, the modules that are asked for stand in the
code. -/
theorem paths_sitesAt {nodes : List Tree}
    (closed : ∀ node ∈ nodes, context.config.isOpen node = false) :
    ((context.sitesAt nodes).map Site.request).filterMap Request.path? =
      nodes.filterMap context.config.path? := by
  rw [sitesAt, List.filterMap_map, List.filterMap_filterMap]
  apply List.filterMap_congr
  intro node member
  exact path?_siteAt? (closed node member)

/-! Sites on a pass that goes on -/

theorem ok_of_goes (tree : Tree) (goes : (context.treePass tree).failure? = none) :
    ∀ site ∈ context.sitesAt tree.nodes, ∃ value, (site.compile context).outcome = .ok value := by
  induction tree using Tree.inductionOn with
  | node form parts ih =>
    have goesParts := goes_parts goes
    rw [treePass_node, treesPass_of_goes goesParts, Pass.andThen_of_none rfl] at goes
    intro site member
    obtain ⟨node, inside, isSite⟩ := List.mem_filterMap.mp member
    cases Tree.mem_nodes.mp inside with
    | inl deeper =>
      obtain ⟨part, memberPart, deeper⟩ := deeper
      exact ih part memberPart (goesParts part memberPart) site
        (List.mem_filterMap.mpr ⟨node, deeper, isSite⟩)
    | inr same =>
      rw [same, siteAt?] at isSite
      dsimp only at goes
      rw [sitePass_of_some context isSite] at goes
      cases outcome : (site.compile context).outcome with
      | ok value => exact ⟨value, rfl⟩
      | error failure =>
        rw [Pass.ofRun_of_error _ outcome] at goes
        cases goes

theorem endsAt_of_goes {trees : List Tree}
    (goes : ∀ tree ∈ trees, (context.treePass tree).failure? = none)
    (closed : ∀ node ∈ Tree.nodesOf trees, context.config.isOpen node = false) :
    ∀ path ∈ context.config.paths trees, context.endsAt path = false := by
  intro path member
  rw [Config.paths, ← paths_sitesAt closed, List.filterMap_map] at member
  obtain ⟨site, memberSite, asks⟩ := List.mem_filterMap.mp member
  obtain ⟨node, inside, isSite⟩ := List.mem_filterMap.mp memberSite
  obtain ⟨tree, memberTree, deeper⟩ := Tree.mem_nodesOf.mp inside
  obtain ⟨value, succeeds⟩ := ok_of_goes tree (goes tree memberTree) site
    (List.mem_filterMap.mpr ⟨node, deeper, isSite⟩)
  refine Bool.eq_false_iff.mpr fun ends => ?_
  obtain ⟨failure, fails⟩ := Site.compile_of_endsAt asks ends
  rw [succeeds] at fails
  cases fails

theorem fetches_treesPass {trees : List Tree}
    (closed : ∀ node ∈ Tree.nodesOf trees, context.config.isOpen node = false)
    (loads : ∀ failure, (context.treesPass trees).failure? = some failure →
      failure.isLoad = true) :
    Event.fetches (context.treesPass trees).events =
      context.loaded (context.config.paths trees) := by
  cases failed : (context.treesPass trees).failure? with
  | none =>
    have goes := goes_of_treesPass failed
    rw [treesPass_of_goes goes, happened_eq goes, fetches_compiling, paths_sitesAt closed]
    exact (loaded_of_goes (endsAt_of_goes goes closed)).symm
  | some failure =>
    -- The site where the pass stops is the first one whose module cannot be loaded.
    obtain ⟨place, form, parts, site, stops⟩ := exists_stopsAt trees failed
    obtain ⟨path, asks, ends⟩ := site.failsOnly_compile stops.fails (loads failure failed)
    obtain ⟨left, order⟩ := place.nodesOf_fill (.node form parts)
    rw [Tree.nodes, ← List.append_assoc, ← Tree.nodesOf_append, ← stops.stands,
      List.append_assoc] at order
    have isSite : context.siteAt? (.node form parts) = some site := stops.isSite
    have inCode {node : Tree} (member : node ∈ Tree.nodesOf (place.passed ++ parts)) :
        node ∈ Tree.nodesOf trees := by
      rw [← order]
      exact List.mem_append_left _ member
    have here : context.config.path? (.node form parts) = some path := by
      rw [← path?_siteAt? (closed _ (by simp [← order])), isSite]
      exact asks
    have earlier : Event.fetches (context.happened (place.passed ++ parts)) =
        context.config.paths (place.passed ++ parts) := by
      rw [happened_eq stops.goes, fetches_compiling,
        paths_sitesAt fun node member => closed node (inCode member)]
      rfl
    have last : Event.fetches (site.compile context).events = [path] := by
      rw [← Event.filterMap_requests, site.requests_compile, Request.filterMap_calls, asks]
      rfl
    have split : context.config.paths trees =
        context.config.paths (place.passed ++ parts) ++
          path :: left.filterMap context.config.path? := by
      rw [Config.paths, ← order, List.filterMap_append, List.singleton_append,
        List.filterMap_cons_some here]
      rfl
    rw [stops.pass, split, loaded_of_ends _ ends]
    · simp only [Event.fetches, List.filterMap_append] at earlier last ⊢
      rw [earlier, last]
      exact List.append_nil _
    · exact endsAt_of_goes stops.goes fun node member => closed node (inCode member)

/-! Contexts that differ in the processor -/

def withProcessor (context : Context) (processor : Processor) : Context :=
  { context with config := { context.config with processor } }

theorem loaded_withProcessor (processor : Processor) (paths : List String) :
    (context.withProcessor processor).loaded paths = context.loaded paths := by
  induction paths with
  | nil => rfl
  | cons path paths ih =>
    rw [loaded, loaded, ih]
    rfl

theorem isReplaceable_withProcessor (processor : Processor) (tree : Tree) :
    (context.withProcessor processor).config.isReplaceable tree =
      context.config.isReplaceable tree := by
  induction tree using Tree.inductionOn with
  | node form parts ih =>
    unfold Config.isReplaceable
    split
    · rfl
    · rename_i callee types first others whole
      cases whole
      rw [ih callee (by simp), ih first (by simp)]
      rfl
    · rename_i tag types holes whole
      cases whole
      rw [ih tag (by simp)]
      rfl
    · rfl

theorem isOpen_withProcessor (processor : Processor) (tree : Tree) :
    (context.withProcessor processor).config.isOpen tree = context.config.isOpen tree := by
  unfold Config.isOpen
  split
  · rw [isReplaceable_withProcessor]
    rfl
  · rfl

theorem fetches_withProcessor {program : Program} {processor : Processor}
    (closed : ∀ node ∈ Tree.nodesOf program.items, context.config.isOpen node = false)
    (loads : ∀ failure,
      ((context.withProcessor processor).inlineProgram program).pass.failure? = some failure →
        failure.isLoad = true) :
    Event.fetches ((context.withProcessor processor).inlineProgram program).pass.events =
      context.loaded (context.config.paths program.items) := by
  rw [pass_inlineProgram, ← loaded_withProcessor processor]
  apply fetches_treesPass _ loads
  intro node member
  rw [isOpen_withProcessor]
  exact closed node member

/-- What a pass loads does not depend on the processor, for code in which no call can be completed
to a managed `require`: by a module or template that stands for its callee or for its first
argument. Two passes with any two processors then load the same modules in the same order, if each
ends well or at a module that is missing, as it does when all that the processor returns are
expressions. These are the modules that the code asks for, up to the one that the passes end at. -/
theorem loads_do_not_depend_on_processor (context : Context) (program : Program)
    (closed : ∀ node ∈ Tree.nodesOf program.items, context.config.isOpen node = false)
    (first second : Processor)
    (firstLoads : ∀ failure,
      ((context.withProcessor first).inlineProgram program).pass.failure? = some failure →
        failure.isLoad = true)
    (secondLoads : ∀ failure,
      ((context.withProcessor second).inlineProgram program).pass.failure? = some failure →
        failure.isLoad = true) :
    Event.fetches ((context.withProcessor first).inlineProgram program).pass.events =
        Event.fetches ((context.withProcessor second).inlineProgram program).pass.events ∧
      Event.fetches ((context.withProcessor second).inlineProgram program).pass.events =
        context.loaded (context.config.paths program.items) := by
  have loadsSecond := fetches_withProcessor closed secondLoads
  exact ⟨(fetches_withProcessor closed firstLoads).trans loadsSecond.symm, loadsSecond⟩

def numbering : Processor := fun _ _ => .ok "1"

/-- Returns calls that would load a module. -/
def calling : Processor := fun _ _ => .ok "[require('./a.css'), require('./z.css')]"

/-- One of the modules that the code asks for is missing. -/
def lacking : Context where
  config := { matcher := .css, tag := "css", processor := numbering, strict := true }
  loader := (Modules.ofList [("./a.css", "a"), ("./b.css", "b"), ("./z.css", "z")]).loader
  filename := "a.js"
  code := "import a from './a.css';\n" ++
    "const f = [require('./b.css'), css`d$\x7brequire('./c.css')\x7d`, require('./a.css')];"

def lacked : Program :=
  (Program.parse? (Dialect.ofFilename lacking.filename) lacking.code).getD ⟨none, []⟩

theorem lacking_loads_up_to_missing_module :
    Event.fetches ((lacking.withProcessor numbering).inlineProgram lacked).pass.events =
        Event.fetches ((lacking.withProcessor calling).inlineProgram lacked).pass.events ∧
      Event.fetches ((lacking.withProcessor calling).inlineProgram lacked).pass.events =
        ["./a.css", "./b.css", "./c.css"] := by
  obtain ⟨closed, first, second, paths⟩ :
      (∀ node ∈ Tree.nodesOf lacked.items, lacking.config.isOpen node = false) ∧
        ((lacking.withProcessor numbering).inlineProgram lacked).pass.failure?.all
          Failure.isLoad = true ∧
        ((lacking.withProcessor calling).inlineProgram lacked).pass.failure?.all
          Failure.isLoad = true ∧
        lacking.loaded (lacking.config.paths lacked.items) = ["./a.css", "./b.css", "./c.css"] := by
    decide +kernel
  obtain ⟨same, loads⟩ := loads_do_not_depend_on_processor lacking lacked closed numbering calling
    (fun failure => (Option.all_eq_true _ _).mp first failure)
    (fun failure => (Option.all_eq_true _ _).mp second failure)
  exact ⟨same, loads.trans paths⟩

/-- Returns the path of a module for one text. -/
def naming : Processor := fun _ styles => .ok (if styles == "x" then "'./a.css'" else "1")

/-- A template stands for the path of a `require`, so generated code completes the call. -/
example :
    let program : Program := ⟨none, [.node .expressionStatement [.node (.call .none)
      [.leaf (.name "require"), .absent,
        .node (.tagged 1 [⟨"x", some "x"⟩]) [.leaf (.name "css"), .absent]]]]⟩
    Event.fetches ((lacking.withProcessor naming).inlineProgram program).pass.events =
        ["./a.css"] ∧
      Event.fetches ((lacking.withProcessor numbering).inlineProgram program).pass.events = [] := by
  decide +kernel

end Context

end CssInline
