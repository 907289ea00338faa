import CssInline.Proofs.FailStop
import CssInline.Proofs.Placed

/-! Code without sites. A pass does nothing there, and only there. -/

namespace CssInline

open Code

/-- The nodes that styles are put in the place of: the default import of a style module, a call of
`require` with a literal path of one, and a template with the tag for styles. -/
inductive Config.IsSite (config : Config) : Tree → Prop
  | importOf {clause : ImportClause} {name : String} {parts : List Tree}
      (loads : clause.typeOnly = false) (names : clause.default? = some name)
      (managed : config.manages clause.source = true) :
      IsSite config (.node (.importItem clause) parts)
  | require {path : String} {raw : Option String} {inName inPath others : List Tree} {types : Tree}
      (managed : config.manages path = true) :
      IsSite config (.node (.call .none)
        (.node (.name "require") inName :: types :: .node (.string path raw) inPath :: others))
  | template {line : Nat} {quasis : List Quasi} {inTag holes : List Tree} {types : Tree} :
      IsSite config (.node (.tagged line quasis)
        (.node (.name config.tag) inTag :: types :: holes))

theorem Site.of?_eq_none_iff {config : Config} {tree : Tree} :
    Site.of? config tree = none ↔ ¬ config.IsSite tree := by
  constructor
  · intro missing isSite
    cases isSite with
    | importOf loads names managed => simp [Site.of?, ofImport?, loads, names, managed] at missing
    | require managed => simp [Site.of?, ofRequire?, managed] at missing
    | template => simp [Site.of?, ofTagged?] at missing
  · intro noSite
    cases found : Site.of? config tree with
    | none => rfl
    | some site =>
      refine absurd ?_ noSite
      unfold Site.of? at found
      split at found
      · unfold ofImport? at found
        split at found
        · cases found
        · rename_i clause _ kept
          obtain ⟨name, names, _⟩ := Option.map_eq_some_iff.mp found
          simp only [Bool.or_eq_true, not_or, Bool.not_eq_true, Bool.not_eq_false'] at kept
          exact .importOf kept.1 names kept.2
      · unfold ofRequire? at found
        split at found
        · rename_i managed
          exact .require managed
        · cases found
      · unfold ofTagged? at found
        split at found
        · rename_i same
          rw [eq_of_beq same]
          exact .template
        · cases found
      · cases found

/-! Sites leave something behind -/

theorem Run.bind_happens {run : Run α} (happens : run.events ≠ []) (next : α → Run β) :
    (run >>= next).events ≠ [] := by
  cases outcome : run.outcome with
  | ok value =>
    rw [bind_of_ok next outcome]
    exact List.append_ne_nil_of_left_ne_nil happens _
  | error failure =>
    rw [bind_of_error next outcome]
    exact happens

theorem Context.tolerate_happens {context : Context} (position : Option Position) (fallback : α)
    {run : Run α} (happens : run.events ≠ []) :
    (context.tolerate position fallback run).events ≠ [] := by
  rw [tolerate]
  split
  · exact happens
  · split
    · exact happens
    · exact List.append_ne_nil_of_left_ne_nil happens _

theorem Site.compile_happens (context : Context) (site : Site) :
    (site.compile context).events ≠ [] := by
  have emits (event : Event) : (Run.emit event).events ≠ [] := List.cons_ne_nil event []
  cases site with
  | importOf clause name =>
    rw [compile, compileImport]
    split
    · exact Run.bind_happens (emits _) _
    · exact Run.bind_happens (emits _) _
  | require path => exact Run.bind_happens (emits _) _
  | template template holes =>
    apply Run.bind_happens
    apply Context.tolerate_happens
    apply Run.bind_happens
    exact Run.bind_happens (emits _) _

/-! The pass -/

namespace Context

variable {context : Context}

theorem no_site_of_sitePass {tree : Tree} (nothing : (context.sitePass tree).events = []) :
    ¬ context.config.IsSite tree := by
  rw [← Site.of?_eq_none_iff]
  cases isSite : Site.of? context.config tree with
  | none => rfl
  | some site =>
    rw [sitePass_of_some context isSite, Pass.events_ofRun] at nothing
    exact absurd (List.append_eq_nil_iff.mp nothing).1 (site.compile_happens context)

theorem treesPass_of_done {trees : List Tree}
    (done : ∀ tree ∈ trees, context.treePass tree = .done tree) :
    context.treesPass trees = .done trees := by
  induction trees with
  | nil => rfl
  | cons tree trees ih =>
    have first := done tree List.mem_cons_self
    have rest := ih fun other member => done other (List.mem_cons_of_mem tree member)
    rw [treesPass_cons, first, Pass.andThen_done, rest, Pass.andThen_done]

theorem treePass_of_no_site (tree : Tree)
    (noSite : ∀ node ∈ tree.nodes, ¬ context.config.IsSite node) :
    context.treePass tree = .done tree := by
  induction tree using Tree.inductionOn with
  | node form parts ih =>
    have inParts : context.treesPass parts = .done parts := by
      apply treesPass_of_done
      intro part member
      apply ih part member
      intro node inside
      exact noSite node (Tree.mem_nodes.mpr (.inl ⟨part, member, inside⟩))
    rw [treePass_node, inParts, Pass.andThen_done]
    exact sitePass_of_none context
      (Site.of?_eq_none_iff.mpr (noSite _ (Tree.mem_nodes.mpr (.inr rfl))))

end Context

theorem Pass.events_of_andThen {pass : Pass α} {unchanged : α → β} {next : α → Pass β}
    (nothing : (pass.andThen unchanged next).events = []) : pass.events = [] := by
  cases failed : pass.failure? with
  | none =>
    rw [andThen_of_none failed] at nothing
    exact (List.append_eq_nil_iff.mp nothing).1
  | some failure =>
    rw [andThen_of_some failed] at nothing
    exact nothing

namespace Context

variable {context : Context}

theorem done_of_treesPass {trees : List Tree}
    (quiet : ∀ tree ∈ trees, (context.treePass tree).events = [] →
      context.treePass tree = .done tree)
    (nothing : (context.treesPass trees).events = []) :
    ∀ tree ∈ trees, context.treePass tree = .done tree := by
  induction trees with
  | nil => exact nofun
  | cons tree trees ih =>
    rw [treesPass_cons] at nothing
    have first := quiet tree List.mem_cons_self (Pass.events_of_andThen nothing)
    rw [first, Pass.andThen_done] at nothing
    have rest := ih (fun other member => quiet other (List.mem_cons_of_mem tree member))
      (Pass.events_of_andThen nothing)
    intro other member
    rcases List.mem_cons.mp member with rfl | later
    · exact first
    · exact rest other later

/-- Where nothing happens the code stays, as a failure is something that happens. -/
theorem done_of_treePass (tree : Tree) (nothing : (context.treePass tree).events = []) :
    context.treePass tree = .done tree ∧ ∀ node ∈ tree.nodes, ¬ context.config.IsSite node := by
  induction tree using Tree.inductionOn with
  | node form parts ih =>
    rw [treePass_node] at nothing ⊢
    have inParts := done_of_treesPass (fun part member quiet => (ih part member quiet).1)
      (Pass.events_of_andThen nothing)
    rw [treesPass_of_done inParts, Pass.andThen_done] at nothing ⊢
    have noSite := no_site_of_sitePass nothing
    refine ⟨sitePass_of_none context (Site.of?_eq_none_iff.mpr noSite), fun node inside => ?_⟩
    rcases Tree.mem_nodes.mp inside with ⟨part, member, deeper⟩ | rfl
    · have quiet : (context.treePass part).events = [] := by
        rw [inParts part member]
        rfl
      exact (ih part member quiet).2 node deeper
    · exact noSite

/-- Without a site in the program, however deep, a pass keeps the program as it is, succeeds, and
nothing happens on its way: nothing is loaded, processed or reported. Only then nothing happens. -/
theorem pass_does_nothing_iff_no_site (context : Context) (program : Program) :
    (∀ node ∈ Tree.nodesOf program.items, ¬ context.config.IsSite node) ↔
      (context.inlineProgram program).pass.result = program ∧
        (context.inlineProgram program).pass.events = [] ∧
        (context.inlineProgram program).pass.failure? = none ∧
        (context.inlineProgram program).pass.toRun.outcome = .ok program := by
  rw [pass_inlineProgram]
  constructor
  · intro noSite
    have items : context.treesPass program.items = .done program.items := by
      apply treesPass_of_done
      intro tree member
      apply treePass_of_no_site
      intro node inside
      exact noSite node (Tree.mem_nodesOf.mpr ⟨tree, member, inside⟩)
    rw [items]
    exact ⟨rfl, rfl, rfl, rfl⟩
  · rintro ⟨_, nothing, _, _⟩ node inside
    obtain ⟨tree, member, deeper⟩ := Tree.mem_nodesOf.mp inside
    have done := done_of_treesPass (fun tree _ quiet => (done_of_treePass tree quiet).1) nothing
    have quiet : (context.treePass tree).events = [] := by
      rw [done tree member]
      rfl
    exact (done_of_treePass tree quiet).2 node deeper

/-- Code that is close to sites: only an import with a default, a literal path and the tag count. -/
def nearMisses : Context where
  config := {
    matcher := .css
    tag := "css"
    processor := fun _ styles => .ok styles
    strict := false }
  loader := Modules.empty.loader
  filename := "a.js"
  code := "import \x7b b \x7d from './a.css'; require(...['./a.css']); style\x60a\x60"

example : (nearMisses.parse.outcome matches .ok _) ∧ nearMisses.inlined.events = [] := by
  decide +kernel

end Context

end CssInline
