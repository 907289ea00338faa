import CssInline.Proofs.Concatenation
import CssInline.Proofs.FailStop
import CssInline.Proofs.Program

/-! Literals as they are written. A literal without a written form is only put into code for a text
of a template, and never takes the place of a node as a whole. -/

namespace CssInline

open Code Placeholder

/-- All literals in the code are written somehow. -/
def Code.Tree.IsWritten (tree : Tree) : Prop :=
  ∀ node ∈ tree.nodes, literal? node = none

namespace Code.Tree

theorem Fits.literal? {start : Cursor} {tree : Tree} (fits : tree.Fits start) :
    literal? tree = none := by
  unfold Placeholder.literal?
  split
  · exact absurd rfl fits
  · rfl

theorem IsPlaced.isWritten {start : Cursor} {tree : Tree} (placed : tree.IsPlaced start) :
    tree.IsWritten :=
  fun node inside => (placed node inside).1.literal?

theorem IsWritten.part {form : Form} {parts : List Tree} (written : (node form parts).IsWritten)
    {part : Tree} (member : part ∈ parts) : part.IsWritten :=
  fun node inside => written node (mem_nodes.mpr (.inl ⟨part, member, inside⟩))

theorem IsWritten.self {tree : Tree} (written : tree.IsWritten) : literal? tree = none := by
  cases tree with
  | node form parts => exact written _ (mem_nodes.mpr (.inr rfl))

/-- Whether a node is a literal without a written form does not depend on its parts. -/
theorem literal?_node {form : Form} {parts : List Tree}
    (written : literal? (node form parts) = none) (parts' : List Tree) :
    literal? (node form parts') = none := by
  unfold literal? at written ⊢
  split at written
  · cases written
  · split
    · rename_i other _ value _ same
      cases same
      exact absurd rfl (other value parts)
    · rfl

theorem isWritten_node {form : Form} {parts : List Tree}
    (self : literal? (node form parts) = none) (inside : ∀ part ∈ parts, part.IsWritten) :
    (node form parts).IsWritten := by
  intro node member
  cases mem_nodes.mp member with
  | inl deeper =>
    obtain ⟨part, isPart, inPart⟩ := deeper
    exact inside part isPart node inPart
  | inr same => rw [same, self]

theorem isWritten_bare {form : Form} {parts : List Tree}
    (self : literal? (node form parts) = none) (inside : ∀ part ∈ parts, part.IsWritten) :
    (bare form parts).IsWritten := by
  unfold bare
  split
  · split
    · exact inside _ List.mem_cons_self
    · exact isWritten_node rfl inside
  · exact isWritten_node rfl inside
  · exact isWritten_node self inside

mutual

theorem isWritten_unplaced : (tree : Tree) → tree.IsWritten → tree.unplaced.IsWritten
  | .node form parts, written => by
    rw [unplaced]
    exact isWritten_bare (literal?_node written.self (unplacedAll parts))
      (isWritten_unplacedAll parts fun part member => written.part member)

theorem isWritten_unplacedAll : (trees : List Tree) → (∀ tree ∈ trees, tree.IsWritten) →
    ∀ tree ∈ unplacedAll trees, tree.IsWritten
  | [], _ => nofun
  | tree :: trees, written => by
    rw [unplacedAll]
    intro other member
    cases List.mem_cons.mp member with
    | inl same =>
      rw [same]
      exact isWritten_unplaced tree (written tree List.mem_cons_self)
    | inr later =>
      exact isWritten_unplacedAll trees
        (fun tree member => written tree (List.mem_cons_of_mem _ member)) other later

end

end Code.Tree

theorem Code.Program.isWritten_of_parse? {dialect : Dialect} {text : String} {program : Program}
    (parsed : Program.parse? dialect text = some program) {node : Tree}
    (inside : node ∈ Tree.nodesOf program.items) : node.IsWritten :=
  fun _ deeper => (fits_of_parse? parsed (Tree.nodesOf_subset program.items inside deeper)).literal?

/-! Expressions -/

theorem literal?_parseExpression {source : String} {tree : Tree}
    (parsed : parseExpression source = .ok tree) : literal? tree = none := by
  unfold parseExpression at parsed
  cases read : readScript (enclosed source) with
  | none =>
    rw [read] at parsed
    cases parsed
  | some items =>
    have written := Tree.isWritten_unplacedAll items fun item member =>
      (readItems_placed read item member : item.IsPlaced _).isWritten
    rw [read, Option.map_some] at parsed
    split at parsed
    · cases parsed
    · rename_i inner same
      cases parsed
      rw [Option.some.inj same] at written
      have statement := written _ List.mem_cons_self
      have paren := statement.part List.mem_cons_self
      exact literal?_guarded (paren.part List.mem_cons_self).self
    · cases parsed
    · cases parsed

theorem literal?_substitute (stem : List Char) {holes : List Tree}
    (written : ∀ hole ∈ holes, literal? hole = none) {tree : Tree} (self : literal? tree = none) :
    literal? (substitute stem holes tree) = none := by
  unfold substitute
  split
  · exact self
  · cases tree with
    | node form parts =>
      cases replaced : replacement? stem holes form with
      | none =>
        rw [fill_of_none replaced]
        exact Tree.literal?_node self _
      | some tree =>
        rw [fill_of_some replaced]
        unfold replacement? at replaced
        split at replaced
        · obtain ⟨index, _, found⟩ := Option.bind_eq_some_iff.mp replaced
          obtain ⟨hole, isHole, same⟩ := Option.map_eq_some_iff.mp found
          rw [← same]
          exact literal?_guarded (written hole (List.mem_of_getElem? isHole))
        all_goals first
          | (obtain ⟨_, _, same⟩ := Option.map_eq_some_iff.mp replaced; rw [← same]; rfl)
          | cases replaced

/-! Runs -/

/-- Whether `holds` is true of what `run` comes to, if it does not fail. -/
def Run.Gives (run : Run α) (holds : α → Prop) : Prop :=
  ∀ ⦃value⦄, run.outcome = .ok value → holds value

namespace Run.Gives

variable {holds : α → Prop} {holds' : β → Prop}

theorem bind {run : Run α} {next : α → Run β} (first : run.Gives holds)
    (second : ∀ value, holds value → (next value).Gives holds') : (run >>= next).Gives holds' := by
  intro result outcome
  cases ran : run.outcome with
  | ok value =>
    rw [Run.bind_of_ok next ran] at outcome
    exact second value (first ran) outcome
  | error failure =>
    rw [Run.bind_of_error next ran] at outcome
    cases outcome

theorem any (run : Run α) : run.Gives fun _ => True :=
  fun _ _ => trivial

theorem pure {value : α} (true : holds value) : Run.Gives (pure value) holds := by
  intro result outcome
  cases outcome
  exact true

end Run.Gives

namespace Site

theorem expressionOf_gives (source : String) :
    (expressionOf source).Gives fun tree => literal? tree = none := by
  intro tree outcome
  unfold expressionOf at outcome
  split at outcome
  · rename_i parsed
    cases outcome
    exact literal?_parseExpression parsed
  · cases outcome

/-- The interpolations that are put into what the site becomes. -/
def holes : Site → List Tree
  | .template _ holes => holes
  | _ => []

theorem compile_gives (context : Context) {site : Site}
    (written : ∀ hole ∈ site.holes, literal? hole = none) :
    (site.compile context).Gives fun tree => literal? tree = none := by
  cases site with
  | importOf clause name =>
    rw [compile]
    unfold compileImport
    split
    · refine (Run.Gives.any _).bind fun _ _ => (Run.Gives.any _).bind fun _ _ => ?_
      exact (Run.Gives.any _).bind fun _ _ => (Run.Gives.any _).bind fun _ _ => .pure rfl
    · refine (Run.Gives.any _).bind fun _ _ => ?_
      exact (Run.Gives.any _).bind fun _ _ => (Run.Gives.any _).bind fun _ _ => .pure rfl
  | require path =>
    refine (Run.Gives.any _).bind fun _ _ => (Run.Gives.any _).bind fun source _ => ?_
    exact expressionOf_gives source
  | template template holes =>
    refine (Run.Gives.any _).bind fun compiled _ => (Run.Gives.any _).bind fun _ _ => ?_
    refine (expressionOf_gives compiled.source).bind fun tree self => ?_
    exact .pure (literal?_substitute compiled.stem written self)

theorem holes_of? {config : Config} {form : Form} {parts : List Tree} {site : Site}
    (isSite : of? config (.node form parts) = some site) : ∀ hole ∈ site.holes, hole ∈ parts := by
  intro hole member
  unfold of? at isSite
  split at isSite
  · unfold ofImport? at isSite
    split at isSite
    · cases isSite
    · obtain ⟨name, _, same⟩ := Option.map_eq_some_iff.mp isSite
      cases same
      cases member
  · unfold ofRequire? at isSite
    split at isSite
    · cases isSite
      cases member
    · cases isSite
  · rename_i whole
    unfold ofTagged? at isSite
    split at isSite
    · cases isSite
      cases whole
      exact List.mem_cons_of_mem _ (List.mem_cons_of_mem _ member)
    · cases isSite
  · cases isSite

end Site

/-! What code becomes -/

namespace Context

variable (context : Context)

mutual

/-- What becomes of code that is written is no literal without a written form. -/
theorem literal?_finished : (tree : Tree) → tree.IsWritten →
    literal? (context.finished tree) = none
  | .node form parts, written => by
    have self := Tree.literal?_node written.self
    have inParts := literal?_finishedAll parts fun part member => written.part member
    rw [finished, treePass_node]
    cases failed : (context.treesPass parts).failure? with
    | some failure =>
      rw [Pass.andThen_of_some failed]
      exact self _
    | none =>
      -- The site sees the finished parts, so that the same is known of its interpolations.
      rw [Pass.andThen_of_none failed, treesPass_of_goes (goes_of_treesPass failed)]
      dsimp only
      unfold sitePass
      split
      · exact self _
      · rename_i site isSite
        cases outcome : (site.compile context).outcome with
        | error failure =>
          rw [Pass.ofRun_of_error _ outcome]
          exact self _
        | ok tree =>
          rw [Pass.ofRun_of_ok _ outcome]
          refine Site.compile_gives context (fun hole isHole => ?_) outcome
          obtain ⟨part, member, same⟩ := List.mem_map.mp (Site.holes_of? isSite hole isHole)
          rw [← same]
          exact inParts part member

theorem literal?_finishedAll : (trees : List Tree) → (∀ tree ∈ trees, tree.IsWritten) →
    ∀ tree ∈ trees, literal? (context.finished tree) = none
  | [], _ => nofun
  | tree :: trees, written => by
    intro other member
    cases List.mem_cons.mp member with
    | inl same =>
      rw [same]
      exact literal?_finished tree (written tree List.mem_cons_self)
    | inr later =>
      exact literal?_finishedAll trees
        (fun tree member => written tree (List.mem_cons_of_mem _ member)) other later

end

end Context

end CssInline
