import CssInline.Proofs.FailStop
import CssInline.Proofs.Placed

/-! What happens on a pass, as the compilations of one site after the other. The nodes of the code
come in order, each after its parts. -/

namespace CssInline

open Code

/-! Nodes in order -/

namespace Code.Tree

theorem nodesOf_append (trees trees' : List Tree) :
    nodesOf (trees ++ trees') = nodesOf trees ++ nodesOf trees' := by
  induction trees with
  | nil => rfl
  | cons tree trees ih => rw [List.cons_append, nodesOf, nodesOf, ih, List.append_assoc]

end Code.Tree

theorem Frame.nodes_around (frame : Frame) (tree : Tree) :
    (frame.around tree).nodes =
      Tree.nodesOf frame.before ++
        (tree.nodes ++ (Tree.nodesOf frame.after ++ [frame.around tree])) := by
  rw [around, Tree.nodes, Tree.nodesOf_append, Tree.nodesOf]
  simp only [List.append_assoc]

/-- The nodes before a place are those on the way to it. -/
theorem Place.nodesOf_fill (place : Place) (tree : Tree) :
    Tree.nodesOf place.passed ++ tree.nodes <+: Tree.nodesOf (place.fill tree) := by
  obtain ⟨before, frames, after⟩ := place
  have inside : Tree.nodesOf (frames.flatMap Frame.before) ++ tree.nodes <+:
      (frames.foldr Frame.around tree).nodes := by
    induction frames with
    | nil => exact List.prefix_rfl
    | cons frame frames ih =>
      rw [List.flatMap_cons, Tree.nodesOf_append, List.foldr_cons, Frame.nodes_around,
        List.append_assoc]
      apply (List.prefix_append_right_inj _).mpr
      exact ih.trans (List.prefix_append _ _)
  rw [passed, fill, Tree.nodesOf_append, Tree.nodesOf_append, Tree.nodesOf, List.append_assoc]
  apply (List.prefix_append_right_inj _).mpr
  exact inside.trans (List.prefix_append _ _)

namespace Context

variable (context : Context)

/-- The site that a node is once its parts are done. -/
def siteAt? : Tree → Option Site
  | .node form parts => Site.of? context.config (.node form (parts.map context.finished))

def sitesAt (nodes : List Tree) : List Site :=
  nodes.filterMap context.siteAt?

def compiling (sites : List Site) : List Event :=
  sites.flatMap fun site => (site.compile context).events

variable {context}

theorem sitesAt_append (nodes nodes' : List Tree) :
    context.sitesAt (nodes ++ nodes') = context.sitesAt nodes ++ context.sitesAt nodes' :=
  List.filterMap_append

theorem compiling_append (sites sites' : List Site) :
    context.compiling (sites ++ sites') = context.compiling sites ++ context.compiling sites' :=
  List.flatMap_append

theorem compiling_toList (site? : Option Site) :
    context.compiling site?.toList = site?.elim [] fun site => (site.compile context).events := by
  cases site? with
  | none => rfl
  | some site => exact List.flatMap_singleton _ _

theorem sitesAt_singleton (node : Tree) :
    context.sitesAt [node] = (context.siteAt? node).toList := by
  cases isSite : context.siteAt? node with
  | none => exact List.filterMap_cons_none isSite
  | some site => exact List.filterMap_cons_some isSite

/-! Passes without a failure -/

theorem events_sitePass {tree : Tree} (goes : (context.sitePass tree).failure? = none) :
    (context.sitePass tree).events =
      context.compiling (Site.of? context.config tree).toList := by
  rw [compiling_toList]
  cases isSite : Site.of? context.config tree with
  | none =>
    rw [sitePass_of_none context isSite]
    rfl
  | some site =>
    rw [sitePass_of_some context isSite] at goes ⊢
    rw [Pass.events_ofRun, goes]
    exact List.append_nil _

theorem goes_parts {form : Form} {parts : List Tree}
    (goes : (context.treePass (.node form parts)).failure? = none) :
    ∀ part ∈ parts, (context.treePass part).failure? = none := by
  apply goes_of_treesPass
  rw [treePass_node] at goes
  cases failed : (context.treesPass parts).failure? with
  | none => rfl
  | some failure =>
    rw [Pass.andThen_of_some failed] at goes
    cases goes

theorem happened_of_parts {trees : List Tree}
    (each : ∀ tree ∈ trees, (context.treePass tree).events =
      context.compiling (context.sitesAt tree.nodes)) :
    context.happened trees = context.compiling (context.sitesAt (Tree.nodesOf trees)) := by
  induction trees with
  | nil => rfl
  | cons tree trees ih =>
    have first := each tree List.mem_cons_self
    have rest := ih fun other member => each other (List.mem_cons_of_mem tree member)
    rw [happened, List.flatMap_cons, first, Tree.nodesOf, sitesAt_append, compiling_append, ← rest,
      happened]

theorem events_treePass (tree : Tree) (goes : (context.treePass tree).failure? = none) :
    (context.treePass tree).events = context.compiling (context.sitesAt tree.nodes) := by
  induction tree using Tree.inductionOn with
  | node form parts ih =>
    have goesParts := goes_parts goes
    have inParts := happened_of_parts fun part member => ih part member (goesParts part member)
    rw [treePass_node, treesPass_of_goes goesParts, Pass.andThen_of_none rfl] at goes ⊢
    rw [inParts, events_sitePass goes, Tree.nodes, sitesAt_append, compiling_append,
      sitesAt_singleton, siteAt?]

theorem happened_eq {trees : List Tree}
    (goes : ∀ tree ∈ trees, (context.treePass tree).failure? = none) :
    context.happened trees = context.compiling (context.sitesAt (Tree.nodesOf trees)) :=
  happened_of_parts fun tree member => events_treePass tree (goes tree member)

/-! All passes -/

variable (context) in
/-- The pass over `trees` comes by the nodes `done`, and leaves out the nodes `left`: there are none
unless the last one it comes by fails. Nothing else happens than that the sites among the nodes are
compiled, each one once. -/
structure ComesBy (trees done left : List Tree) : Prop where
  order : Tree.nodesOf trees = done ++ left
  happens : (context.treesPass trees).events = context.compiling (context.sitesAt done) ++
    ((context.treesPass trees).failure?.map Event.stopped).toList
  whole : (context.treesPass trees).failure? = none → left = []
  stops : ∀ failure, (context.treesPass trees).failure? = some failure →
    ∃ earlier node site, done = earlier ++ [node] ∧ context.siteAt? node = some site ∧
      (site.compile context).outcome = .error failure

theorem exists_comesBy (trees : List Tree) : ∃ done left, context.ComesBy trees done left := by
  cases failed : (context.treesPass trees).failure? with
  | none =>
    have goes := goes_of_treesPass failed
    refine ⟨Tree.nodesOf trees, [], (List.append_nil _).symm, ?_, fun _ => rfl, ?_⟩
    · rw [failed, treesPass_of_goes goes, happened_eq goes]
      exact (List.append_nil _).symm
    · intro failure stopped
      rw [failed] at stopped
      cases stopped
  | some failure =>
    obtain ⟨place, form, parts, site, stands, goes, isSite, fails, pass⟩ :=
      exists_stopsAt trees failed
    obtain ⟨left, order⟩ := place.nodesOf_fill (.node form parts)
    have here : context.sitesAt [.node form parts] = [site] := by
      rw [sitesAt_singleton, siteAt?, isSite]
      rfl
    rw [Tree.nodes, ← List.append_assoc, ← Tree.nodesOf_append, ← stands] at order
    refine ⟨_, left, order.symm, ?_, ?_, ?_⟩
    · rw [failed, pass, happened_eq goes, sitesAt_append, compiling_append, here, compiling,
        compiling, List.flatMap_singleton]
      rfl
    · intro missing
      rw [failed] at missing
      cases missing
    · intro other stopped
      rw [failed] at stopped
      cases stopped
      exact ⟨_, _, site, rfl, isSite, fails⟩

end Context

end CssInline
