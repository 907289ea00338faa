import CssInline.Proofs.Event
import CssInline.Proofs.Walk

/-! Where a pass stops: everything before that place is done, and everything after it is left as
it was. -/

namespace CssInline

open Code

/-! Places in code -/

/-- A node around a place in code, with its parts before and after that place. -/
structure Frame where
  form : Form
  before : List Tree
  after : List Tree

/-- A place in a list of code: what stands before and after it there, and the nodes around the
place, the outermost one first. -/
structure Place where
  before : List Tree
  frames : List Frame
  after : List Tree

def Frame.around (frame : Frame) (tree : Tree) : Tree :=
  .node frame.form (frame.before ++ tree :: frame.after)

namespace Place

/-- The code with `tree` at the place. -/
def fill (place : Place) (tree : Tree) : List Tree :=
  place.before ++ place.frames.foldr Frame.around tree :: place.after

/-- What a walk comes by on its way to the place, in order. -/
def passed (place : Place) : List Tree :=
  place.before ++ place.frames.flatMap Frame.before

/-- The place after `change` was made to everything on the way to it. -/
def mapPassed (change : Tree → Tree) (place : Place) : Place where
  before := place.before.map change
  frames := place.frames.map fun frame => { frame with before := frame.before.map change }
  after := place.after

/-- The same place, seen from the node that holds the list. -/
def inside (form : Form) (place : Place) (after : List Tree) : Place :=
  ⟨[], ⟨form, place.before, place.after⟩ :: place.frames, after⟩

/-- The same place in the list with one more tree in front. -/
def behind (tree : Tree) (place : Place) : Place :=
  { place with before := tree :: place.before }

end Place

/-! Where a pass stops -/

namespace Context

variable (context : Context)

/-- What becomes of `tree`. -/
def finished (tree : Tree) : Tree :=
  (context.treePass tree).result

/-- What happens on the way through `trees`. -/
def happened (trees : List Tree) : List Event :=
  trees.flatMap fun tree => (context.treePass tree).events

/-- The pass over `trees` stops with `failure` at `site`, the node at `place` that has come from
`form` and `parts`. -/
structure StopsAt (trees : List Tree) (failure : Failure) (place : Place) (form : Form)
    (parts : List Tree) (site : Site) : Prop where
  stands : trees = place.fill (.node form parts)
  /-- Nothing failed on the way. -/
  goes : ∀ tree ∈ place.passed ++ parts, (context.treePass tree).failure? = none
  isSite : Site.of? context.config (.node form (parts.map context.finished)) = some site
  fails : (site.compile context).outcome = .error failure
  /-- The way to the node and its parts are done. The node, those around it and all that follows are
  kept. -/
  pass : context.treesPass trees =
    ⟨(place.mapPassed context.finished).fill (.node form (parts.map context.finished)),
      context.happened (place.passed ++ parts) ++ (site.compile context).events ++
        [.stopped failure],
      some failure⟩

variable {context : Context} {failure : Failure}

theorem treesPass_of_goes {trees : List Tree}
    (goes : ∀ tree ∈ trees, (context.treePass tree).failure? = none) :
    context.treesPass trees = ⟨trees.map context.finished, context.happened trees, none⟩ := by
  induction trees with
  | nil => rfl
  | cons tree trees ih =>
    have goesTree := goes tree List.mem_cons_self
    have goesTrees := ih fun other member => goes other (List.mem_cons_of_mem tree member)
    rw [treesPass_cons, Pass.andThen_of_none goesTree, goesTrees]
    simp [Pass.andThen, Pass.done, finished, happened]

theorem goes_of_treesPass {trees : List Tree} (goes : (context.treesPass trees).failure? = none) :
    ∀ tree ∈ trees, (context.treePass tree).failure? = none := by
  induction trees with
  | nil => intro tree member; cases member
  | cons tree trees ih =>
    cases failed : (context.treePass tree).failure? with
    | some failure =>
      rw [treesPass_cons, Pass.andThen_of_some failed] at goes
      cases goes
    | none =>
      rw [treesPass_cons, Pass.andThen_of_none failed] at goes
      cases failedLater : (context.treesPass trees).failure? with
      | some failure =>
        rw [Pass.andThen_of_some failedLater] at goes
        cases goes
      | none =>
        intro other member
        cases List.mem_cons.mp member with
        | inl same => rw [same, failed]
        | inr later => exact ih failedLater other later

/-- After a failure in the first tree the others are not looked at. -/
theorem treesPass_of_failed {tree : Tree} (failed : (context.treePass tree).failure? = some failure)
    (trees : List Tree) :
    context.treesPass (tree :: trees) =
      ⟨(context.treePass tree).result :: trees, (context.treePass tree).events, some failure⟩ := by
  rw [treesPass_cons, Pass.andThen_of_some failed]

namespace StopsAt

variable {trees parts : List Tree} {place : Place} {form : Form} {site : Site}

/-- The node itself fails. -/
theorem here (goes : ∀ tree ∈ parts, (context.treePass tree).failure? = none)
    (isSite : Site.of? context.config (.node form (parts.map context.finished)) = some site)
    (fails : (site.compile context).outcome = .error failure) (after : List Tree) :
    context.StopsAt (.node form parts :: after) failure ⟨[], [], after⟩ form parts site where
  stands := rfl
  goes := goes
  isSite := isSite
  fails := fails
  pass := by
    have node : context.treePass (.node form parts) =
        ⟨.node form (parts.map context.finished),
          context.happened parts ++ (site.compile context).events ++ [.stopped failure],
          some failure⟩ := by
      rw [treePass_node, treesPass_of_goes goes, Pass.andThen_of_none rfl, sitePass, isSite]
      simp only [Pass.ofRun_of_error _ fails, List.append_assoc]
    rw [treesPass_of_failed (by rw [node]), node]
    rfl

/-- A part of the node fails. -/
theorem inside (stops : context.StopsAt parts failure place form' parts' site) (form : Form)
    (after : List Tree) :
    context.StopsAt (.node form parts :: after) failure (place.inside form after) form' parts'
      site where
  stands := by rw [stops.stands]; rfl
  goes := by simpa [Place.inside, Place.passed] using stops.goes
  isSite := stops.isSite
  fails := stops.fails
  pass := by
    have failed : (context.treesPass parts).failure? = some failure := by rw [stops.pass]
    have node : context.treePass (.node form parts) =
        ⟨.node form (context.treesPass parts).result, (context.treesPass parts).events,
          some failure⟩ := by
      rw [treePass_node, Pass.andThen_of_some failed]
    rw [treesPass_of_failed (by rw [node]), node, stops.pass]
    simp [Place.inside, Place.mapPassed, Place.fill, Place.passed, Frame.around]

/-- A later tree fails. -/
theorem behind {tree : Tree} (goes : (context.treePass tree).failure? = none)
    (stops : context.StopsAt trees failure place form parts site) :
    context.StopsAt (tree :: trees) failure (place.behind tree) form parts site where
  stands := by rw [stops.stands]; rfl
  goes := by
    intro other member
    cases List.mem_cons.mp member with
    | inl same => rw [same, goes]
    | inr later => exact stops.goes other later
  isSite := stops.isSite
  fails := stops.fails
  pass := by
    rw [treesPass_cons, Pass.andThen_of_none goes, stops.pass]
    simp [Pass.andThen, Place.behind, Place.mapPassed, Place.fill, Place.passed, finished, happened]

end StopsAt

/-- A pass that fails has a place where it stops. The place is found by going down into the parts of
a tree and on to the trees after it. -/
theorem exists_stopsAt :
    (trees : List Tree) → (context.treesPass trees).failure? = some failure →
      ∃ place form parts site, context.StopsAt trees failure place form parts site
  | [], stopped => by cases stopped
  | .node form parts :: trees, stopped => by
    cases failedInside : (context.treesPass parts).failure? with
    | some other =>
      have failed : (context.treePass (.node form parts)).failure? = some other := by
        rw [treePass_node, Pass.andThen_of_some failedInside]
      rw [treesPass_of_failed failed] at stopped
      cases stopped
      obtain ⟨place, form', parts', site, stops⟩ := exists_stopsAt parts failedInside
      exact ⟨_, _, _, _, stops.inside form trees⟩
    | none =>
      have goes := goes_of_treesPass failedInside
      have node : context.treePass (.node form parts) =
          ⟨(context.sitePass (.node form (parts.map context.finished))).result,
            context.happened parts ++
              (context.sitePass (.node form (parts.map context.finished))).events,
            (context.sitePass (.node form (parts.map context.finished))).failure?⟩ := by
        rw [treePass_node, treesPass_of_goes goes, Pass.andThen_of_none rfl]
      cases failed : (context.treePass (.node form parts)).failure? with
      | none =>
        rw [treesPass_cons, Pass.andThen_of_none failed] at stopped
        have failedLater : (context.treesPass trees).failure? = some failure := by
          cases later : (context.treesPass trees).failure? with
          | none => rw [Pass.andThen_of_none later] at stopped; cases stopped
          | some other => rw [Pass.andThen_of_some later] at stopped; exact stopped
        obtain ⟨place, form', parts', site, stops⟩ := exists_stopsAt trees failedLater
        exact ⟨_, _, _, _, stops.behind failed⟩
      | some other =>
        rw [treesPass_of_failed failed] at stopped
        cases stopped
        rw [node] at failed
        cases isSite : Site.of? context.config (.node form (parts.map context.finished)) with
        | none => simp [sitePass, isSite, Pass.done] at failed
        | some site =>
          cases fails : (site.compile context).outcome with
          | ok value => simp [sitePass, isSite, Pass.ofRun_of_ok _ fails] at failed
          | error cause =>
            simp only [sitePass, isSite, Pass.ofRun_of_error _ fails] at failed
            cases failed
            exact ⟨_, _, _, _, .here goes isSite fails trees⟩
termination_by trees => sizeOf trees

/-! Records of the stop -/

theorem sitePass_records_no_stop (tree : Tree) (goes : (context.sitePass tree).failure? = none) :
    ∀ event ∈ (context.sitePass tree).events, event.isStop = false := by
  unfold sitePass at goes ⊢
  split at goes
  · intro event member
    cases member
  · rename_i site _
    cases outcome : (site.compile context).outcome with
    | ok value =>
      rw [Pass.ofRun_of_ok _ outcome]
      exact site.compile_records_no_stop context
    | error failure => rw [Pass.ofRun_of_error _ outcome] at goes; cases goes

mutual

theorem treePass_records_no_stop : (tree : Tree) → (context.treePass tree).failure? = none →
    ∀ event ∈ (context.treePass tree).events, event.isStop = false
  | .node form parts, goes => by
    rw [treePass_node] at goes ⊢
    cases failed : (context.treesPass parts).failure? with
    | some failure => rw [Pass.andThen_of_some failed] at goes; cases goes
    | none =>
      rw [Pass.andThen_of_none failed] at goes ⊢
      intro event member
      cases List.mem_append.mp member with
      | inl earlier => exact treesPass_records_no_stop parts failed event earlier
      | inr later => exact sitePass_records_no_stop _ goes event later

theorem treesPass_records_no_stop : (trees : List Tree) →
    (context.treesPass trees).failure? = none →
      ∀ event ∈ (context.treesPass trees).events, event.isStop = false
  | [], _ => by intro event member; cases member
  | tree :: trees, goes => by
    have goesAll := goes_of_treesPass goes
    rw [treesPass_of_goes goesAll]
    intro event member
    cases List.mem_append.mp member with
    | inl first => exact treePass_records_no_stop tree (goesAll tree List.mem_cons_self) event first
    | inr later =>
      have goesTrees := treesPass_of_goes fun other member =>
        goesAll other (List.mem_cons_of_mem tree member)
      exact treesPass_records_no_stop trees (by rw [goesTrees]) event (by rwa [goesTrees])

end

end Context

def LogEntry.isStop (entry : LogEntry) : Bool :=
  entry.level == .debug && entry.message == "stopping css transform"

theorem Event.log_append (sink : Sink) (filename : String) (first second : List Event) :
    Event.log sink filename (first ++ second) =
      Event.log sink filename first ++ Event.log sink filename second :=
  List.filterMap_append

theorem Event.filter_log_isStop (sink : Sink) (filename : String) (events : List Event) :
    (Event.log sink filename events).filter LogEntry.isStop =
      Event.log sink filename (events.filter Event.isStop) := by
  induction events with
  | nil => rfl
  | cons event events ih =>
    have single : (Event.log sink filename [event]).filter LogEntry.isStop =
        Event.log sink filename ([event].filter Event.isStop) := by
      cases event with
      | fetched path opened => cases opened <;> rfl
      | reported diagnostic => cases sink <;> rfl
      | _ => rfl
    rw [← List.singleton_append, Event.log_append, List.filter_append, List.filter_append,
      Event.log_append, single, ih]

namespace Context

variable {context : Context} {failure : Failure}

/-- Of everything that happens up to the stop only its last event is a stop. -/
theorem StopsAt.filter_isStop {trees parts : List Tree} {place : Place} {form : Form}
    {site : Site} (stops : context.StopsAt trees failure place form parts site) :
    (context.treesPass trees).events.filter Event.isStop = [.stopped failure] := by
  have earlier : (context.happened (place.passed ++ parts)).filter Event.isStop = [] := by
    rw [List.filter_eq_nil_iff]
    intro event member
    obtain ⟨tree, memberTree, memberEvent⟩ := List.mem_flatMap.mp member
    rw [treePass_records_no_stop tree (stops.goes tree memberTree) event memberEvent]
    exact Bool.false_ne_true
  have compiling : (site.compile context).events.filter Event.isStop = [] := by
    rw [List.filter_eq_nil_iff]
    intro event member
    rw [site.compile_records_no_stop context event member]
    exact Bool.false_ne_true
  rw [stops.pass, List.filter_append, List.filter_append, earlier, compiling]
  rfl

/-- A failure ends the pass for good. It stops at one site: what is on the way to the site is
finished, the site is kept with its finished parts, and so is all other code. The failure of the
site is the last thing that happens, the outcome, and the only stop in the log; a walk that comes
later neither changes nor does anything. -/
theorem failed_pass_stops_for_good (context : Context) (program : Program) {failure : Failure}
    (failed : (context.inlineProgram program).pass.failure? = some failure) :
    (∃ (place : Place) (form : Form) (parts : List Tree) (site : Site),
      program.items = place.fill (.node form parts) ∧
      (∀ tree ∈ place.passed ++ parts, (context.treePass tree).failure? = none) ∧
      Site.of? context.config (.node form (parts.map context.finished)) = some site ∧
      (site.compile context).outcome = .error failure ∧
      (context.inlineProgram program).pass.result = { program with
        items := (place.mapPassed context.finished).fill
          (.node form (parts.map context.finished)) } ∧
      (context.inlineProgram program).pass.events =
        context.happened (place.passed ++ parts) ++ (site.compile context).events ++
          [.stopped failure]) ∧
    (context.inlineProgram program).pass.toRun.outcome = .error failure ∧
    (∀ sink, (Event.log sink context.filename (context.inlineProgram program).pass.events).filter
        LogEntry.isStop =
      [⟨.debug, "stopping css transform",
        [("filename", .text context.filename), ("err", .text failure.text)]⟩]) ∧
    ∀ (trees : List Tree) (progress : Progress), progress.failure?.isSome →
      context.inlineTrees trees progress = (trees, progress) := by
  obtain ⟨place, form, parts, site, stops⟩ := exists_stopsAt program.items failed
  refine ⟨⟨place, form, parts, site, stops.stands, stops.goes, stops.isSite, stops.fails, ?_, ?_⟩,
    ?_, ?_, fun trees progress halted => context.rests_inlineTrees trees halted⟩
  · rw [pass_inlineProgram, stops.pass]
  · rw [pass_inlineProgram, stops.pass]
  · rw [Pass.toRun, failed]
  · intro sink
    rw [Event.filter_log_isStop, pass_inlineProgram, stops.filter_isStop]
    rfl

/-- A strict context whose processor refuses one text. -/
def refusing : Context where
  config := {
    matcher := .css
    tag := "css"
    processor := fun _ styles =>
      if styles == "bad" then .error ⟨"refused", none⟩ else .ok "1"
    strict := true }
  loader := Modules.empty.loader
  filename := "a.js"
  code := ""

/-- Three statements with templates. In the second one the template that is refused stands inside
another. -/
def refused : Program where
  shebang := none
  items :=
    let template (quasis : List String) (holes : List Tree) : Tree :=
      .node (.tagged 1 (quasis.map fun text => ⟨text, some text⟩))
        (.name "css" :: .absent :: holes)
    [.node .expressionStatement [template ["a"] []],
      .node .expressionStatement [template ["b", ""] [template ["bad"] []]],
      .node .expressionStatement [template ["c"] []]]

theorem refused_stops_for_good :
    (refusing.inlineProgram refused).pass.failure? = some (.process ⟨"refused", none⟩) ∧
      (refusing.inlineProgram refused).pass.toRun.outcome =
        .error (.process ⟨"refused", none⟩) := by
  have failed : (refusing.inlineProgram refused).pass.failure? =
      some (.process ⟨"refused", none⟩) := by decide +kernel
  exact ⟨failed, (failed_pass_stops_for_good refusing refused failed).2.1⟩

end Context

end CssInline
