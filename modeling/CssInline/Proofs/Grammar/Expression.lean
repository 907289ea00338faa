import CssInline.Proofs.Grammar.Primary

/-! Operations and assignments keep to their text. -/

namespace CssInline.Code

open Placed

variable {start : Cursor}

/-! Operations -/

theorem combines_isPlaced : Combines (Tree.IsPlaced start) (Tree.IsPlaced start) where
  binary operator left right placedLeft placedRight binds := by
    have placed : isPlaced start [left, right] := by simp [placedLeft, placedRight]
    exact Tree.isPlaced_node.mpr ⟨placed, trivial, binds, trivial⟩
  cast operator left type placedLeft placedType binds := by
    have placed : isPlaced start [left, type] := by simp [placedLeft, placedType]
    exact Tree.isPlaced_node.mpr ⟨placed, trivial, binds, trivial⟩

/-! Targets -/

@[simp] theorem isPlaced_simpleTarget? {tree : Tree} (placed : tree.IsPlaced start)
    (strict : Bool) : isPlaced start (simpleTarget? strict tree) := by
  unfold simpleTarget?
  split
  · split <;> simp_all
  · exact isPlaced_none

theorem isPlaced_targets (strict : Bool) :
    (∀ tree : Tree, tree.IsPlaced start → isPlaced start (target? strict tree)) ∧
      (∀ trees, isPlaced start trees → isPlaced start (propertyTargets? strict trees)) ∧
      (∀ tree : Tree, tree.IsPlaced start → isPlaced start (propertyTarget? strict tree)) ∧
      (∀ tree : Tree, tree.IsPlaced start → isPlaced start (elementTarget? strict tree)) ∧
      ∀ trees, isPlaced start trees → isPlaced start (elementTargets? strict trees) := by
  apply target?.mutual_induct strict
  case case1 =>
    intro elements ih placed
    rw [target?]
    exact isPlaced_option_map (ih (Tree.isPlaced_node.mp placed).1) (by simp)
  case case2 =>
    intro properties ih placed
    rw [target?]
    exact isPlaced_option_map (ih (by simpa using placed)) (by simp)
  case case3 =>
    intro tree noArray noObject placed
    rw [target?.eq_3 strict tree noArray noObject]
    exact isPlaced_simpleTarget? placed strict
  -- What is left are the parts of lists and objects.
  all_goals
    intros
    simp_all [elementTarget?, propertyTarget?, elementTargets?, propertyTargets?] <;>
      split <;> simp_all

@[simp] theorem isPlaced_target? {tree : Tree} (placed : tree.IsPlaced start) (strict : Bool) :
    isPlaced start (target? strict tree) :=
  (isPlaced_targets strict).1 tree placed

namespace Grammar

variable {rules : Rules} [Keeping rules] {within : Within}

/-! Expressions -/

omit [Keeping rules] in
theorem gives_reference (strict : Bool) (operand : Tree) :
    (Reader.require (isReference strict operand)).Gives start fun _ =>
      isReference false operand = true :=
  (gives_require _).mono fun _ found => isReference_of_strict found

@[simp] theorem keeps_postfixed : Keeps start (postfixed rules within) := by
  unfold postfixed
  repeat' first
    | with_reducible refine Keeps.bindRule fun _ _ _ => ?_
    | with_reducible refine Keeps.bindGiven (gives_reference _ _) (keeps_plain _) fun _ _ _ => ?_
    | with_reducible refine Keeps.bind ?_ fun _ _ => ?_
    | split
    | simp_all

@[simp] theorem keeps_unary : Keeps start (unary rules within) := by
  unfold unary
  repeat' first
    | with_reducible refine Keeps.bindRule fun _ _ _ => ?_
    | with_reducible refine Keeps.bindGiven (gives_reference _ _) (keeps_plain _) fun _ _ _ => ?_
    | with_reducible refine Keeps.bind ?_ fun _ _ => ?_
    | split
    | simp_all

theorem gives_placedBinary : (binary rules within).Gives start fun tree =>
    tree.IsPlaced start ∧ 3 ≤ tree.strength :=
  gives_binary combines_isPlaced ((Binding.suits start .unary within).and keeps_rule) keeps_rule

@[simp] theorem keeps_binary : Keeps start (binary rules within) :=
  gives_placedBinary.mono fun _ placed => placed.1

@[simp] theorem keeps_conditional : Keeps start (conditional rules within) := by
  unfold conditional
  refine .bindGiven gives_placedBinary keeps_binary fun test both _ => ?_
  repeat' first
    | with_reducible refine Keeps.bindRule fun _ _ _ => ?_
    | with_reducible refine Keeps.bind ?_ fun _ _ => ?_
    | split
    | simp_all

@[simp] theorem keeps_yieldExpression : Keeps start (yieldExpression rules within) := by
  unfold yieldExpression
  repeat' first
    | with_reducible refine Keeps.bindRule fun _ _ _ => ?_
    | with_reducible refine Keeps.bind ?_ fun _ _ => ?_
    | split
    | simp_all

omit [Keeping rules] in
theorem gives_target (strict : Bool) (left : Tree) :
    (Reader.ofOption (target? strict left)).Gives start (·.isTarget = true) :=
  .ofOption fun _ => isTarget_of_target?

omit [Keeping rules] in
theorem gives_simpleTarget (strict : Bool) (left : Tree) :
    (Reader.ofOption (simpleTarget? strict left)).Gives start (·.isTarget = true) :=
  .ofOption fun _ => isTarget_of_simpleTarget?

@[simp] theorem keeps_assignmentFrom {left : Tree} (placed : left.IsPlaced start) :
    Keeps start (assignmentFrom rules within left) := by
  unfold assignmentFrom
  repeat' first
    | with_reducible refine Keeps.bindRule fun _ _ _ => ?_
    | with_reducible refine Keeps.bindGiven (gives_target _ _) ?_ fun _ _ _ => ?_
    | with_reducible refine Keeps.bindGiven (gives_simpleTarget _ _) ?_ fun _ _ _ => ?_
    | with_reducible refine Keeps.bind ?_ fun _ _ => ?_
    | split
    | simp_all

@[simp] theorem keeps_assignment : Keeps start (assignment rules within) := by
  unfold assignment
  repeat' first | with_reducible refine Keeps.bind ?_ fun _ _ => ?_ | split | simp_all

@[simp] theorem keeps_expression : Keeps start (expression rules within) := by
  have tight : (separated "," (rules .assignment within)).Gives start fun trees =>
      ∀ tree ∈ trees, 1 ≤ tree.strength :=
    gives_separated (Binding.suits start .assignment within) ","
  unfold expression
  refine .bindGiven tight (keeps_separated keeps_rule ",") fun _ _ _ => ?_
  split <;> simp_all

end Grammar

end CssInline.Code
