import CssInline.Proofs.Generated
import Mathlib.Data.List.Basic

/-! What a pass asks for: one request for each site, in the order of the code. -/

namespace CssInline

open Code

/-! Requests -/

/-- What is to be compiled at a site: a module, or the texts of a template. -/
inductive Request where
  | module (path : String)
  | template (texts : List String)
deriving DecidableEq

namespace Request

def path? : Request → Option String
  | .module path => some path
  | .template _ => none

/-- The calls of the loader and of the processor that the request leads to. -/
def calls (context : Context) : Request → List Event
  | .module path =>
    .fetched path (context.loader context.filename path).opened ::
      match (context.loader context.filename path).source with
      | .ok styles => [.processed context.filename styles]
      | .error _ => []
  | .template texts =>
    [.processed context.filename
      (Template.styles ⟨texts, 0⟩ (Placeholder.freshStem context.code.toList))]

end Request

def Site.request : Site → Request
  | .importOf clause _ => .module clause.source
  | .require path => .module path
  | .template styles _ => .template styles.texts

theorem Event.filterMap_requests (events : List Event) :
    (Event.requests events).filterMap Event.fetch? = Event.fetches events := by
  rw [requests, List.filterMap_filter, fetches]
  congr
  funext event
  cases event <;> rfl

theorem Request.filterMap_calls (context : Context) (request : Request) :
    (request.calls context).filterMap Event.fetch? = request.path?.toList := by
  cases request with
  | module path =>
    simp only [calls]
    cases (context.loader context.filename path).source <;> rfl
  | template texts => rfl

theorem Run.requests_bind {next : α → Run β}
    (silent : ∀ value, Event.requests (next value).events = []) (run : Run α) :
    Event.requests (run >>= next).events = Event.requests run.events := by
  cases outcome : run.outcome with
  | ok value => rw [bind_of_ok next outcome, Event.requests_append, silent, List.append_nil]
  | error failure => rw [bind_of_error next outcome]

namespace Context

variable {context : Context}

theorem requests_tolerate (position : Option Position) (fallback : α) (run : Run α) :
    Event.requests (context.tolerate position fallback run).events =
      Event.requests run.events := by
  unfold tolerate
  split
  · rfl
  · split
    · rfl
    · exact (Event.requests_append _ _).trans (List.append_nil _)

theorem events_process (styles : String) :
    (process context.filename context.config.processor styles).events =
      [.processed context.filename styles] := by
  unfold process
  cases context.config.processor context.filename styles with
  | ok output => rfl
  | error cause => rfl

theorem requests_compileModule (path : String) :
    Event.requests (context.compileModule path).events = (Request.module path).calls context := by
  rw [compileModule, requests_tolerate, attemptModule, fetch]
  simp only [Request.calls]
  cases (context.loader context.filename path).source with
  | ok styles =>
    rw [Run.bind_of_ok _ rfl, events_process]
    rfl
  | error cause =>
    rw [Run.bind_of_error _ rfl]
    rfl

theorem requests_compileTemplate (template : Template) :
    Event.requests (context.compileTemplate template).events =
      (Request.template template.texts).calls context := by
  unfold compileTemplate
  rw [requests_tolerate, Template.process, Run.requests_bind fun _ => rfl, events_process]
  rfl

end Context

namespace Site

variable {context : Context}

theorem requests_expressionOf (source : String) :
    Event.requests (expressionOf source).events = [] := by
  unfold expressionOf
  split
  · rfl
  · rfl

theorem requests_compile (site : Site) :
    Event.requests (site.compile context).events = site.request.calls context := by
  have closing (finish : Tree → Tree) (source : String) :
      Event.requests (do return finish (← expressionOf source) : Run Tree).events = [] := by
    rw [Run.requests_bind fun _ => rfl, requests_expressionOf]
  cases site with
  | importOf clause name =>
    have compiling : Event.requests (do
          Run.emit (.importFound clause.source name)
          let source ← context.compileModule clause.source
          return constant name (← expressionOf source) : Run Tree).events =
        (Request.module clause.source).calls context := by
      rw [Run.bind_of_ok _ rfl, Event.requests_append, Run.requests_bind (closing (constant name)),
        Context.requests_compileModule]
      rfl
    rw [compile, compileImport]
    split
    · rw [Run.bind_of_ok _ rfl, Event.requests_append]
      exact compiling
    · exact compiling
  | require path =>
    rw [compile, compileRequire, Run.bind_of_ok _ rfl, Event.requests_append,
      Run.requests_bind requests_expressionOf, Context.requests_compileModule]
    rfl
  | template template holes =>
    rw [compile, compileTemplate, Run.requests_bind, Context.requests_compileTemplate]
    · rfl
    intro compiled
    rw [Run.bind_of_ok _ rfl, Event.requests_append, closing]
    rfl

/-- What happens when a template is compiled does not depend on its interpolations. -/
theorem events_compile_finish (site : Site) :
    ((site.finish context).compile context).events = (site.compile context).events := by
  cases site with
  | importOf clause name => rfl
  | require path => rfl
  | template template holes =>
    simp only [finish, compile, compileTemplate]
    cases outcome : (context.compileTemplate template).outcome with
    | error failure => rw [Run.bind_of_error _ outcome, Run.bind_of_error _ outcome]
    | ok compiled =>
      rw [Run.bind_of_ok _ outcome, Run.bind_of_ok _ outcome]
      cases parsed : (expressionOf compiled.source).outcome with
      | error failure =>
        simp only [Run.bind_of_ok _ (Run.outcome_emit _), Run.bind_of_error _ parsed]
      | ok tree => simp only [Run.bind_of_ok _ (Run.outcome_emit _), Run.bind_of_ok _ parsed,
          Run.events_pure]

end Site

/-! Passes over code where sites stand apart -/

namespace Context

variable {context : Context}

theorem siteAt?_of_standsApart (tree : Tree)
    (apart : ∀ node ∈ tree.nodes, context.config.standsApart node = true) :
    context.siteAt? tree = (Site.of? context.config tree).map (Site.finish context) := by
  by_cases isSite : context.config.IsSite tree
  · exact siteAt?_of_isSite isSite
  · rw [Site.of?_eq_none_iff.mpr isSite, Option.map_none]
    cases found : context.siteAt? tree with
    | none => rfl
    | some site =>
      have replaceable := isReplaceable_of_siteAt? tree (by rw [found]; rfl)
      exact absurd (Config.isSite_of_isReplaceable tree apart replaceable) isSite

theorem sitesAt_of_standsApart {trees : List Tree}
    (apart : ∀ node ∈ Tree.nodesOf trees, context.config.standsApart node = true) :
    context.sitesAt (Tree.nodesOf trees) =
      ((Tree.nodesOf trees).filterMap (Site.of? context.config)).map (Site.finish context) := by
  rw [sitesAt, List.map_filterMap]
  apply List.filterMap_congr
  intro node inside
  apply siteAt?_of_standsApart node
  intro other deeper
  exact apart other (Tree.nodesOf_subset trees inside deeper)

theorem compiling_finish (sites : List Site) :
    context.compiling (sites.map (Site.finish context)) = context.compiling sites := by
  rw [compiling, List.flatMap_map]
  simp only [Site.events_compile_finish]
  rfl

theorem requests_compiling (sites : List Site) :
    Event.requests (context.compiling sites) =
      (sites.map Site.request).flatMap (Request.calls context) := by
  induction sites with
  | nil => rfl
  | cons site sites ih =>
    rw [compiling, List.flatMap_cons, Event.requests_append, Site.requests_compile, ← compiling,
      ih]
    rfl

theorem fetches_compiling (sites : List Site) :
    Event.fetches (context.compiling sites) =
      (sites.map Site.request).filterMap Request.path? := by
  rw [← Event.filterMap_requests, requests_compiling, List.filterMap_flatMap]
  simp only [Request.filterMap_calls]
  exact (List.filterMap_eq_flatMap_toList _ _).symm

/-- A pass that does not fail, over code where no site is the callee or the first argument of a call
or the tag of a template. All that happens is that the sites are compiled, one after the other: each
site of the code as it was given, once, in the order of the nodes, where each comes after its parts.
So one request is made for each, for a module by its path and for a template by its texts, also
where a path comes back. What the processor returns makes no requests. -/
theorem each_site_is_requested_once (context : Context) (program : Program)
    (apart : ∀ node ∈ Tree.nodesOf program.items, context.config.standsApart node = true)
    (goes : (context.inlineProgram program).pass.failure? = none) :
    let sites := (Tree.nodesOf program.items).filterMap (Site.of? context.config)
    let events := (context.inlineProgram program).pass.events
    events = (sites.flatMap fun site => (site.compile context).events) ∧
      Event.requests events = (sites.map Site.request).flatMap (Request.calls context) ∧
      Event.fetches events = (sites.map Site.request).filterMap Request.path? := by
  intro sites events
  have goesAll := goes_of_treesPass goes
  have happens : events = context.compiling sites := by
    have pass := treesPass_of_goes goesAll
    rw [happened_eq goesAll, sitesAt_of_standsApart apart, compiling_finish] at pass
    change (context.inlineProgram program).pass.events = _
    rw [pass_inlineProgram, pass]
  rw [happens]
  exact ⟨rfl, requests_compiling sites, fetches_compiling sites⟩

/-- One module twice, and a template in another. What the processor returns looks like sites. -/
def relaying : Context where
  config := {
    matcher := .css
    tag := "css"
    processor := fun _ _ => .ok "[require('./z.css'), css`z`]"
    strict := true }
  loader := (Modules.ofList [("./a.css", "a"), ("./z.css", "z")]).loader
  filename := "a.js"
  code := "import a from './a.css';\nconst f = [require('./a.css'), css`b$\x7bcss`c`\x7d`];"

def relayed : Program :=
  (Program.parse? (Dialect.ofFilename relaying.filename) relaying.code).getD ⟨none, []⟩

theorem relaying_requests_each_site_once :
    let sites := (Tree.nodesOf relayed.items).filterMap (Site.of? relaying.config)
    sites.map Site.request =
        [.module "./a.css", .module "./a.css", .template ["c"], .template ["b", ""]] ∧
      Event.requests (relaying.inlineProgram relayed).pass.events =
        (sites.map Site.request).flatMap (Request.calls relaying) ∧
      Event.fetches (relaying.inlineProgram relayed).pass.events = ["./a.css", "./a.css"] := by
  intro sites
  obtain ⟨order, apart, goes⟩ :
      sites.map Site.request =
          [.module "./a.css", .module "./a.css", .template ["c"], .template ["b", ""]] ∧
        (∀ node ∈ Tree.nodesOf relayed.items, relaying.config.standsApart node = true) ∧
        (relaying.inlineProgram relayed).pass.failure? = none := by decide +kernel
  obtain ⟨_, requests, fetches⟩ := each_site_is_requested_once relaying relayed apart goes
  rw [order] at fetches
  exact ⟨order, requests, fetches⟩

end Context

end CssInline
