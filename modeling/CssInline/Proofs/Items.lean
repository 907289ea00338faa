import CssInline.Proofs.Grammar.Item
import CssInline.Proofs.Reports
import CssInline.Proofs.Tolerance
import Mathlib.Data.List.Forall2

/-! The items of a file on a pass. Each stays where it is, and only the default imports of style
modules give way to something else, each to one constant. -/

namespace CssInline

open Code

/-! Imports of style modules -/

/-- The import binds `name` to a style module. -/
structure Config.Binds (config : Config) (clause : ImportClause) (name : String) : Prop where
  loads : clause.typeOnly = false
  names : clause.default? = some name
  managed : config.manages clause.source = true

theorem Site.ofImport?_of_binds {config : Config} {clause : ImportClause} {name : String}
    (binds : config.Binds clause name) :
    ofImport? config clause = some (.importOf clause name) := by
  simp [ofImport?, binds.loads, binds.names, binds.managed]

theorem Site.exists_binds {config : Config} {clause : ImportClause} {site : Site}
    (isSite : ofImport? config clause = some site) :
    ∃ name, config.Binds clause name ∧ site = .importOf clause name := by
  unfold ofImport? at isSite
  split at isSite
  · cases isSite
  · rename_i kept
    obtain ⟨name, names, same⟩ := Option.map_eq_some_iff.mp isSite
    simp only [Bool.or_eq_true, not_or, Bool.not_eq_true, Bool.not_eq_false'] at kept
    exact ⟨name, ⟨kept.1, names, kept.2⟩, same.symm⟩

namespace Context

variable (context : Context)

/-- What a style module can be replaced by: the expression that the processor makes of its styles,
or what stands in for the module if it is refused and the pass is lenient. -/
inductive ModuleValue (path : String) : Tree → Prop
  | compiled {styles source : String} {value : Tree}
      (loaded : (context.loader context.filename path).source = .ok styles)
      (processed : context.config.processor context.filename styles = .ok source)
      (parsed : parseExpression source = .ok value) : ModuleValue path value
  | standIn {failure : Failure} {value : Tree} (lenient : context.config.strict = false)
      (refused : context.moduleRefusal? path = some failure)
      (parsed : parseExpression moduleStandIn = .ok value) : ModuleValue path value

/-- What can become of an item on a pass, which did not stop early if `whole`. An import that binds
a name to a style module gives way to one constant of that name. Other imports are kept, and if the
pass stops so are some that bind a name. A statement stays one, whatever becomes of its parts. -/
inductive ItemBecomes (whole : Bool) : Tree → Tree → Prop
  | bound {clause : ImportClause} {name : String} {value : Tree}
      (binds : context.config.Binds clause name)
      (isValue : context.ModuleValue clause.source value) :
      ItemBecomes whole (.leaf (.importItem clause))
        (.node .variableStatement
          [.node (.variables "const") [.node .declarator [.leaf (.binding name), value]]])
  | kept {clause : ImportClause}
      (unbound : whole = true → ∀ name, ¬ context.config.Binds clause name) :
      ItemBecomes whole (.leaf (.importItem clause)) (.leaf (.importItem clause))
  | inside {form : Form} {parts parts' : List Tree} (isStatement : form.isStatement = true)
      (count : parts'.length = parts.length) :
      ItemBecomes whole (.node form parts) (.node form parts')
  | commented (comments : List Comment) {item item' : Tree}
      (inside : ItemBecomes whole item item') :
      ItemBecomes whole (.node (.commented comments) [item]) (.node (.commented comments) [item'])

variable {context}

theorem ItemBecomes.weaken {item item' : Tree} (becomes : context.ItemBecomes true item item')
    (whole : Bool) : context.ItemBecomes whole item item' := by
  induction becomes with
  | bound binds isValue => exact .bound binds isValue
  | kept unbound => exact .kept fun _ => unbound rfl
  | inside isStatement count => exact .inside isStatement count
  | commented comments _ ih => exact .commented comments ih

theorem ItemBecomes.refl {item : Tree} (isItem : item.IsItem) :
    context.ItemBecomes false item item := by
  induction isItem with
  | importOf clause => exact .kept fun whole => absurd whole Bool.false_ne_true
  | @statement tree isStatement =>
    obtain ⟨form, parts⟩ := tree
    exact .inside isStatement rfl
  | commented comments _ ih => exact .commented comments ih

/-! Modules that are compiled -/

theorem eq_of_compileModule {path source : String}
    (compiles : (context.compileModule path).outcome = .ok source) :
    (∃ styles, (context.loader context.filename path).source = .ok styles ∧
      context.config.processor context.filename styles = .ok source) ∨
    (context.config.strict = false ∧ ∃ failure, context.moduleRefusal? path = some failure ∧
      source = moduleStandIn) := by
  unfold compileModule tolerate at compiles
  cases outcome : (context.attemptModule path).outcome with
  | ok value =>
    simp only [outcome] at compiles
    cases compiles
    rw [attemptModule] at outcome
    cases fetched : (context.fetch path).outcome with
    | ok styles =>
      rw [Run.bind_of_ok _ fetched] at outcome
      exact .inl ⟨styles, (fetch_of_ok fetched).1, (process_of_ok outcome).1⟩
    | error failure =>
      rw [Run.bind_of_error _ fetched] at outcome
      cases outcome
  | error failure =>
    have refused : context.moduleRefusal? path = some failure := by
      rw [← failure?_attemptModule, Run.failure?, outcome]
    simp only [outcome] at compiles
    cases strict : context.config.strict with
    | true =>
      rw [strict, if_pos rfl, outcome] at compiles
      cases compiles
    | false =>
      rw [strict, if_neg Bool.false_ne_true] at compiles
      cases compiles
      exact .inr ⟨rfl, failure, refused, rfl⟩

theorem moduleValue_of_compiles {clause : ImportClause} {name : String} {tree : Tree}
    (compiles : ((Site.importOf clause name).compile context).outcome = .ok tree) :
    ∃ value, tree = Site.constant name value ∧ context.ModuleValue clause.source value := by
  obtain ⟨notes, compiled⟩ := Site.compileImport_eq context clause name
  rw [Site.compile, compiled] at compiles
  cases outcome : (context.compileModule clause.source).outcome with
  | error failure =>
    rw [Run.bind_of_error _ outcome] at compiles
    cases compiles
  | ok source =>
    rw [Run.bind_of_ok _ outcome] at compiles
    cases parsed : parseExpression source with
    | error cause =>
      rw [Site.expressionOf_of_error parsed] at compiles
      cases compiles
    | ok value =>
      rw [Site.expressionOf_of_ok parsed] at compiles
      cases compiles
      refine ⟨value, rfl, ?_⟩
      obtain ⟨styles, loaded, processed⟩ | ⟨lenient, failure, refused, rfl⟩ :=
        eq_of_compileModule outcome
      · exact .compiled loaded processed parsed
      · exact .standIn lenient refused parsed

/-! Items on a pass -/

theorem treesPass_of_goes_first {tree : Tree} (goes : (context.treePass tree).failure? = none)
    (trees : List Tree) :
    context.treesPass (tree :: trees) =
      ⟨(context.treePass tree).result :: (context.treesPass trees).result,
        (context.treePass tree).events ++ (context.treesPass trees).events,
        (context.treesPass trees).failure?⟩ := by
  rw [treesPass_cons, Pass.andThen_of_none goes]
  cases failed : (context.treesPass trees).failure? with
  | none =>
    rw [Pass.andThen_of_none failed]
    simp [Pass.done]
  | some failure => rw [Pass.andThen_of_some failed]

theorem length_treesPass (trees : List Tree) :
    (context.treesPass trees).result.length = trees.length := by
  induction trees with
  | nil => rfl
  | cons tree trees ih =>
    cases failed : (context.treePass tree).failure? with
    | some failure => rw [treesPass_of_failed failed, List.length_cons, List.length_cons]
    | none => rw [treesPass_of_goes_first failed, List.length_cons, ih, List.length_cons]

/-- A node of a form that no site has is kept around its parts. -/
theorem treePass_of_form {form : Form}
    (noSite : ∀ parts, Site.of? context.config (.node form parts) = none) (parts : List Tree) :
    context.treePass (.node form parts) =
      ⟨.node form (context.treesPass parts).result, (context.treesPass parts).events,
        (context.treesPass parts).failure?⟩ := by
  rw [treePass_node]
  cases failed : (context.treesPass parts).failure? with
  | some failure => rw [Pass.andThen_of_some failed]
  | none =>
    rw [Pass.andThen_of_none failed]
    simp [sitePass_of_none context (noSite _), Pass.done]

theorem of?_of_isStatement {form : Form} (isStatement : form.isStatement = true)
    (parts : List Tree) : Site.of? context.config (.node form parts) = none := by
  cases form <;> first | rfl | cases isStatement

theorem itemBecomes_treePass {item : Tree} (isItem : item.IsItem) :
    context.ItemBecomes (context.treePass item).failure?.isNone item
      (context.treePass item).result := by
  induction isItem with
  | importOf clause =>
    have pass : context.treePass (.leaf (.importItem clause)) =
        context.sitePass (.leaf (.importItem clause)) := by
      rw [Tree.leaf, treePass_node]
      rfl
    rw [pass]
    cases isSite : Site.ofImport? context.config clause with
    | none =>
      have missing : Site.of? context.config (.leaf (.importItem clause)) = none := isSite
      rw [sitePass_of_none context missing]
      refine .kept fun _ name binds => ?_
      rw [Site.ofImport?_of_binds binds] at isSite
      cases isSite
    | some site =>
      obtain ⟨name, binds, rfl⟩ := Site.exists_binds isSite
      have found : Site.of? context.config (.leaf (.importItem clause)) =
        some (.importOf clause name) := isSite
      rw [sitePass_of_some context found]
      cases outcome : ((Site.importOf clause name).compile context).outcome with
      | ok tree =>
        obtain ⟨value, rfl, isValue⟩ := moduleValue_of_compiles outcome
        rw [Pass.ofRun_of_ok _ outcome]
        exact .bound binds isValue
      | error failure =>
        rw [Pass.ofRun_of_error _ outcome]
        exact .kept fun whole => absurd whole Bool.false_ne_true
  | @statement tree isStatement =>
    -- No statement is a site, so that only its parts change.
    obtain ⟨form, parts⟩ := tree
    have isStatement : form.isStatement = true := isStatement
    rw [treePass_of_form (of?_of_isStatement isStatement)]
    exact .inside isStatement (length_treesPass parts)
  | @commented item comments _ ih =>
    rw [treePass_of_form fun _ => rfl]
    cases failed : (context.treePass item).failure? with
    | some failure =>
      rw [treesPass_of_failed failed]
      rw [failed] at ih
      exact .commented comments ih
    | none =>
      rw [treesPass_of_goes_first failed]
      rw [failed] at ih
      exact .commented comments ih

theorem forall₂_treesPass {items : List Tree} (areItems : ∀ item ∈ items, item.IsItem) :
    List.Forall₂ (context.ItemBecomes (context.treesPass items).failure?.isNone) items
      (context.treesPass items).result := by
  induction items with
  | nil => exact .nil
  | cons item items ih =>
    have first : context.ItemBecomes (context.treePass item).failure?.isNone item
        (context.treePass item).result :=
      itemBecomes_treePass (areItems item List.mem_cons_self)
    have later {other : Tree} (member : other ∈ items) : other.IsItem :=
      areItems other (List.mem_cons_of_mem item member)
    cases failed : (context.treePass item).failure? with
    | some failure =>
      -- The items after the one that stops the pass are as they were.
      rw [treesPass_of_failed failed]
      rw [failed] at first
      exact .cons first (List.forall₂_same.mpr fun other member => .refl (later member))
    | none =>
      rw [treesPass_of_goes_first failed]
      rw [failed] at first
      exact .cons (first.weaken _) (ih fun other member => later member)

/-- A pass keeps the shape of a file, also one that stops early: item by item, what comes out is
what can become of the item. Only imports that are not for types alone, name the module itself and
have the path of a style module give way, each to one constant of that name with the value of the
module; if the pass does not fail, all of them do. All other imports are kept as they are, and a
statement stays the statement it was, whatever happens to the code in it. -/
theorem pass_keeps_shape (context : Context) (program : Program)
    (areItems : ∀ item ∈ program.items, item.IsItem) :
    (context.inlineProgram program).pass.result.shebang = program.shebang ∧
      List.Forall₂
        (context.ItemBecomes (context.inlineProgram program).pass.failure?.isNone)
        program.items (context.inlineProgram program).pass.result.items := by
  rw [pass_inlineProgram]
  exact ⟨rfl, forall₂_treesPass areItems⟩

/-- Takes one text. -/
def shaping : Context where
  config := {
    matcher := .css
    tag := "css"
    processor := fun _ styles => if styles == "a" then .ok "1" else .error ⟨"refused", none⟩
    strict := false }
  loader := (Modules.ofList [("./a.css", "a"), ("./b.css", "b")]).loader
  filename := "a.ts"
  code := "// a\nimport a, \x7b x \x7d from './a.css';\nimport type t from './a.css';\n" ++
    "import './a.css';\nimport * as n from './a.css';\nimport \x7b y \x7d from './a.css';\n" ++
    "import c from './c.js';\nimport b from './b.css';\nexport default css`a`;"

def shaped : Program :=
  (Program.parse? (Dialect.ofFilename shaping.filename) shaping.code).getD ⟨none, []⟩

def shapedCode : String :=
  "// a\nconst a = 1;\nimport type t from './a.css';\nimport './a.css';\n" ++
    "import * as n from './a.css';\nimport \x7b y \x7d from './a.css';\n" ++
    "import c from './c.js';\nconst b = (()=>\x7b\x7d);\nexport default 1;\n"

/-- Of all the imports the first and the last give way, the last to what stands in for it. -/
theorem shaping_keeps_shape :
    (shaping.inlineProgram shaped).pass.failure? = none ∧
      List.Forall₂ (shaping.ItemBecomes true) shaped.items
        (shaping.inlineProgram shaped).pass.result.items ∧
      (shaping.inlineProgram shaped).pass.result.print = shapedCode := by
  obtain ⟨parsed, goes, printed⟩ :
      Program.parse? (Dialect.ofFilename shaping.filename) shaping.code = some shaped ∧
        (shaping.inlineProgram shaped).pass.failure? = none ∧
        (shaping.inlineProgram shaped).pass.result.print = shapedCode := by decide +kernel
  have shape := (pass_keeps_shape shaping shaped (Program.isItem_of_parse? parsed)).2
  rw [goes] at shape
  exact ⟨goes, shape, printed⟩

end Context

end CssInline
