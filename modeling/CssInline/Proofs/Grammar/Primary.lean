import CssInline.Proofs.Grammar.Member

/-! Templates, accesses and calls, and what they start with, keep to their text. -/

namespace CssInline.Code

open Placed

/-! Template texts -/

theorem prefix_of_quasiText? {text raw : List Char} (found : quasiText? text = some raw) :
    raw <+: text := by
  induction text using quasiText?.induct generalizing raw with
  | case1 =>
    cases found
    exact List.nil_prefix
  | case2 =>
    cases found
    exact List.nil_prefix
  | case3 c rest ih =>
    rw [quasiText?] at found
    obtain ⟨raw', deeper, same⟩ := Option.map_eq_some_iff.mp found
    rw [← same, List.prefix_cons_inj, List.prefix_cons_inj]
    exact ih deeper
  | case4 => cases found
  | case5 c rest noMark noHole noEscape noEnd ih =>
    rw [quasiText?] at found
    · obtain ⟨raw', deeper, same⟩ := Option.map_eq_some_iff.mp found
      rw [← same, List.prefix_cons_inj]
      exact ih deeper
    all_goals assumption
  | case6 => cases found

@[simp] theorem Reader.keeps_quasi {start : Cursor} : Keeps start Reader.quasi := by
  intro cursor reached quasi after read
  unfold Reader.quasi at read
  rw [Reader.bind_apply] at read
  change (Option.bind ((Reader.ofOption (quasiText? cursor.rest)) cursor) _) = _ at read
  cases found : quasiText? cursor.rest with
  | none =>
    rw [found] at read
    cases read
  | some raw =>
    rw [found] at read
    cases read
    exact ⟨raw, (prefix_of_quasiText? found).isInfix.trans reached.suffix.isInfix, rfl⟩

namespace Grammar

variable {start : Cursor} {rules : Rules} {within : Within}

/-! Templates -/

theorem templatePieces_going {cursor after : Cursor} {pieces : TemplatePieces}
    (read : templatePieces rules within cursor = some (pieces, after)) : cursor.rest ≠ [] := by
  intro empty
  have missing : atBacktick cursor = some (false, cursor) := by
    unfold atBacktick Reader.remaining
    simp [Reader.bind_apply, Reader.here, pure, empty]
  unfold templatePieces at read
  rw [Reader.bind_apply, missing] at read
  cases read

theorem templateStep_count {done : TemplatePieces} (even : done.quasis.length = done.holes.length) :
    (templateStep rules within done).Gives start
      (Sum.elim (fun pieces => pieces.quasis.length = pieces.holes.length)
        (fun pieces => pieces.quasis.length = pieces.holes.length + 1)) := by
  unfold templateStep
  refine (Reader.Gives.any _).bind fun quasi _ => (Reader.Gives.any _).bind fun atEnd _ => ?_
  split
  · refine (Reader.Gives.any _).bind fun _ _ => Reader.Gives.pure ?_
    simp [even]
  · refine (Reader.Gives.any _).bind fun _ _ => (Reader.Gives.any _).bind fun hole _ => ?_
    refine (Reader.Gives.any _).bind fun _ _ => Reader.Gives.pure ?_
    simp [even]

theorem templatePieces_count : (templatePieces rules within).Gives start fun pieces =>
    pieces.quasis.length = pieces.holes.length + 1 := by
  unfold templatePieces
  refine (Reader.Gives.any _).bind fun _ _ => (Reader.Gives.any _).bind fun _ _ => ?_
  refine (Reader.Gives.any _).bind fun _ _ => ?_
  exact Reader.Gives.iterate (fun _ even => templateStep_count even) rfl

variable [Keeping rules]

instance : Placed TemplatePieces :=
  ⟨fun start pieces => isPlaced start pieces.quasis ∧ isPlaced start pieces.holes⟩

@[simp] theorem isPlaced_templatePieces {pieces : TemplatePieces} :
    isPlaced start pieces ↔ isPlaced start pieces.quasis ∧ isPlaced start pieces.holes :=
  Iff.rfl

@[simp] theorem keeps_templateStep {done : TemplatePieces} (placed : isPlaced start done) :
    Keeps start (templateStep rules within done) := by
  unfold templateStep
  repeat' first | with_reducible refine Keeps.bind ?_ fun _ _ => ?_ | split | simp_all

@[simp] theorem keeps_templatePieces : Keeps start (templatePieces rules within) := by
  unfold templatePieces
  repeat' first
    | with_reducible refine Keeps.bind ?_ fun _ _ => ?_
    | with_reducible refine Keeps.iterate (fun _ _ => ?_) ?_
    | split
    | simp_all

@[simp] theorem keeps_template : Keeps start (template rules within) := by
  unfold template
  repeat' first | with_reducible refine Keeps.bind ?_ fun _ _ => ?_ | split | simp_all

/-! Lists and parentheses -/

@[simp] theorem keeps_argument : Keeps start (argument rules within) := by
  unfold argument
  repeat' first
    | with_reducible refine Keeps.bindRule fun _ _ _ => ?_
    | with_reducible refine Keeps.bind ?_ fun _ _ => ?_
    | split
    | simp_all

theorem suits_argument : (argument rules within).Gives start (1 ≤ ·.strength) := by
  unfold argument
  refine .last fun spreads => ?_
  split
  · exact .last fun _ => .pure (by decide : 1 ≤ 19)
  · exact Binding.suits start .assignment _

theorem gives_arguments : (arguments rules within).Gives start fun trees =>
    ∀ tree ∈ trees, 1 ≤ tree.strength := by
  unfold arguments
  exact .last fun _ => gives_commaList suits_argument ")"

@[simp] theorem keeps_arguments : Keeps start (arguments rules within) := by
  unfold arguments
  repeat' first | with_reducible refine Keeps.bind ?_ fun _ _ => ?_ | split | simp_all

omit [Keeping rules] in
/-- What holds of the arguments and of places left out holds of all elements of an array. -/
theorem gives_arrayStep {holds : Tree → Prop} (gives : (argument rules within).Gives start holds)
    (empty : holds (.leaf .elision)) {done : List Tree} (hold : ∀ tree ∈ done, holds tree) :
    (arrayStep rules within done).Gives start
      (Sum.elim (fun trees => ∀ tree ∈ trees, holds tree)
        (fun trees => ∀ tree ∈ trees, holds tree)) := by
  unfold arrayStep
  refine .last fun ended => ?_
  split
  · exact .pure fun tree member => hold tree (List.mem_reverse.mp member)
  refine .last fun skips => ?_
  split
  · exact .pure (List.forall_mem_cons.mpr ⟨empty, hold⟩)
  refine .bind gives fun tree holdsTree => .last fun _ => ?_
  have more : ∀ other ∈ tree :: done, holds other := List.forall_mem_cons.mpr ⟨holdsTree, hold⟩
  split
  · exact .pure more
  · exact .last fun _ => .pure fun other member => more other (List.mem_reverse.mp member)

@[simp] theorem keeps_array : Keeps start (array rules within) := by
  unfold array
  have elements : Keeps start (Reader.iterate (arrayStep rules within) []) :=
    .iterate (fun _ => gives_arrayStep keeps_argument (by simp)) isPlaced_nil
  have tight : (Reader.iterate (arrayStep rules within) []).Gives start fun trees =>
      ∀ tree ∈ trees, 1 ≤ tree.strength :=
    .iterate (fun _ => gives_arrayStep suits_argument (by decide)) nofun
  refine .bind (keeps_plain _) fun _ _ => .bindGiven tight elements fun _ _ _ => ?_
  simp_all

@[simp] theorem keeps_parenthesized : Keeps start (parenthesized rules within) := by
  unfold parenthesized
  repeat' first | with_reducible refine Keeps.bind ?_ fun _ _ => ?_ | split | simp_all

@[simp] theorem keeps_computedName : Keeps start (computedName rules within) := by
  unfold computedName
  repeat' first | with_reducible refine Keeps.bind ?_ fun _ _ => ?_ | split | simp_all

/-! Words -/

@[simp] theorem keeps_superAccess : Keeps start (superAccess rules within) := by
  unfold superAccess
  repeat' first
    | with_reducible refine Keeps.bindGiven gives_arguments keeps_arguments fun _ _ _ => ?_
    | with_reducible refine Keeps.bind ?_ fun _ _ => ?_
    | split
    | simp_all

@[simp] theorem keeps_importAccess : Keeps start (importAccess rules within) := by
  unfold importAccess
  repeat' first
    | with_reducible refine Keeps.bindGiven gives_arguments keeps_arguments fun _ _ _ => ?_
    | with_reducible refine Keeps.bind ?_ fun _ _ => ?_
    | split
    | simp_all

omit [Keeping rules] in
@[simp] theorem keeps_callTypes? (calls : Bool) : Keeps start (callTypes? rules within calls) := by
  unfold callTypes?
  repeat' first
    | with_reducible refine Keeps.bind ?_ fun _ _ => ?_
    | with_reducible refine keeps_attempt ?_
    | split
    | simp_all

@[simp] theorem keeps_newExpression : Keeps start (newExpression rules within) := by
  unfold newExpression
  refine .bind (keeps_plain _) fun _ _ => .bind (keeps_plain _) fun _ _ => ?_
  split
  · repeat' first | with_reducible refine Keeps.bind ?_ fun _ _ => ?_ | simp_all
  -- That no call is accessed is known only where no `import` stands.
  intro cursor reached tree after read
  rw [Reader.bind_of_some (Reader.atWord_apply "import" cursor)] at read
  obtain ⟨_, _, required, read⟩ := Reader.bind_eq_some.mp read
  obtain ⟨noImport, same⟩ := Reader.require_eq_some.mp required
  rw [same] at read
  obtain ⟨callee, middle, isRead, read⟩ := Reader.bind_eq_some.mp read
  have isCallee := Binding.isCallee isRead (by simpa using noImport)
  have tight : 18 ≤ callee.strength := Binding.suits start .callee within reached isRead
  have placed : callee.IsPlaced start := keeps_rule reached isRead
  refine (?_ : Keeps start _) (reached.trans (Reader.reaches _ isRead)) read
  repeat' first
    | with_reducible refine Keeps.bindGiven gives_arguments keeps_arguments fun _ _ _ => ?_
    | with_reducible refine Keeps.bind ?_ fun _ _ => ?_
    | split
    | simp_all

@[simp] theorem keeps_variableTree : Keeps start (variableTree within) := by
  unfold variableTree
  repeat' first | with_reducible refine Keeps.bind ?_ fun _ _ => ?_ | split | simp_all

@[simp] theorem keeps_wordExpression : Keeps start (wordExpression rules within) := by
  unfold wordExpression keywordLeaf
  repeat' first | with_reducible refine Keeps.bind ?_ fun _ _ => ?_ | split | simp_all

@[simp] theorem keeps_searchedName : Keeps start searchedName := by
  unfold searchedName
  repeat' first | with_reducible refine Keeps.bind ?_ fun _ _ => ?_ | split | simp_all

@[simp] theorem keeps_primary : Keeps start (primary rules within) := by
  unfold primary
  repeat' first | with_reducible refine Keeps.bind ?_ fun _ _ => ?_ | split | simp_all

/-! Accesses and calls -/

@[simp] theorem keeps_accessedName : Keeps start accessedName := by
  unfold accessedName
  repeat' first | with_reducible refine Keeps.bind ?_ fun _ _ => ?_ | split | simp_all

instance : Placed Access :=
  ⟨fun start access => access.tree.IsPlaced start ∧ 18 ≤ access.tree.strength⟩

@[simp] theorem isPlaced_access {access : Access} :
    isPlaced start access ↔ access.tree.IsPlaced start ∧ 18 ≤ access.tree.strength := Iff.rfl

namespace Access

@[simp] theorem tree_start (tree : Tree) : (Access.start tree).tree = tree := rfl

@[simp] theorem tree_member (access : Access) (property : Tree) :
    (access.member property).tree = .node (.member access.chain) [access.tree, property] := rfl

@[simp] theorem tree_call (access : Access) (types : Tree) (arguments : List Tree) :
    (access.call types arguments).tree =
      .node (.call access.chain) (access.tree :: types :: arguments) := rfl

@[simp] theorem tree_linked (access : Access) : access.linked.tree = access.tree := rfl

end Access

@[simp] theorem keeps_optionalStep {access : Access} (placed : isPlaced start access) :
    Keeps start (optionalStep rules within access) := by
  unfold optionalStep
  repeat' first
    | with_reducible refine Keeps.bindGiven gives_arguments keeps_arguments fun _ _ _ => ?_
    | with_reducible refine Keeps.bind ?_ fun _ _ => ?_
    | split
    | simp_all

/-- A template gets the line of the place from which the whole access is read. -/
@[simp] theorem keeps_taggedStep {access : Access} {types : Tree} (placed : isPlaced start access)
    (placedTypes : types.IsPlaced start) :
    Keeps start (taggedStep rules within start.line access types) := by
  intro cursor reached value after read
  unfold taggedStep at read
  obtain ⟨_, middle, required, read⟩ := Reader.bind_eq_some.mp read
  have here := reached.trans (Reader.reaches _ required)
  obtain ⟨pieces, _, readPieces, same⟩ := Reader.bind_eq_some.mp read
  cases same
  have count := templatePieces_count here readPieces
  have placedPieces := keeps_templatePieces here readPieces
  have line : start.line ≤ start.line ∧
      ∃ cursor, start.Reaches cursor ∧ cursor.rest ≠ [] ∧ start.line ≤ cursor.line :=
    ⟨Nat.le_refl _, middle, here, templatePieces_going readPieces, here.line_le⟩
  have parts : (access.tree :: types :: pieces.holes).length = pieces.quasis.length + 1 := by
    simp [count]
  refine ⟨Tree.isPlaced_node.mpr ⟨?_, ⟨parts, line, placedPieces.1⟩, placed.2, trivial⟩, ?_⟩
  · exact isPlaced_cons.mpr ⟨placed.1, isPlaced_cons.mpr ⟨placedTypes, placedPieces.2⟩⟩
  · exact Nat.le_refl 18

@[simp] theorem keeps_typedStep {access : Access} (placed : isPlaced start access) (calls : Bool) :
    Keeps start (typedStep rules within start.line calls access) := by
  unfold typedStep
  repeat' first
    | with_reducible refine Keeps.bindGiven gives_arguments keeps_arguments fun _ _ _ => ?_
    | with_reducible refine Keeps.bind ?_ fun _ _ => ?_
    | split
    | simp_all

@[simp] theorem keeps_accessStep {access : Access} (placed : isPlaced start access) (calls : Bool) :
    Keeps start (accessStep rules within start.line calls access) := by
  unfold accessStep
  repeat' first
    | with_reducible refine Keeps.bindGiven gives_arguments keeps_arguments fun _ _ _ => ?_
    | with_reducible refine Keeps.bind ?_ fun _ _ => ?_
    | split
    | simp_all

@[simp] theorem keeps_access (calls : Bool) : Keeps start (access rules within calls) := by
  intro cursor reached tree after read
  -- Its steps keep to the text from the cursor on, whose line they are given.
  have keeps : Keeps cursor (do
      let first ← primary rules within
      Reader.iterate (accessStep rules within cursor.line calls) (.start first)) := by
    refine .bindGiven gives_primary keeps_primary fun first tight placed => ?_
    exact .iterate (fun _ placed => keeps_accessStep placed calls) ⟨placed, tight⟩
  exact (keeps (Cursor.Reaches.refl cursor) read).mono reached

end Grammar

end CssInline.Code
