import CssInline.Proofs.Grouping.Operation
import CssInline.Proofs.Placed

/-! Parts that are put in the place of others: what binds as tightly groups as well. -/

namespace CssInline.Code

namespace Tree

/-- Whether a tree groups where the other one does: it binds as tightly, and if it is an operation,
it is the same. -/
structure StandsFor (tree tree' : Tree) : Prop where
  le_strength : ∀ least ≤ 18, least ≤ tree.strength → least ≤ tree'.strength
  isCast : tree.isCast = true → tree'.isCast = true
  isUnary : 1 ≤ tree.strength → tree'.isUnary = true → tree.isUnary = true
  hasOperator : 1 ≤ tree.strength → ∀ operators, tree'.hasOperator operators = true →
    tree.hasOperator operators = true

theorem StandsFor.ofForm {form form' : Form} {parts parts' : List Tree} (same : form' = form) :
    StandsFor (.node form parts) (.node form' parts') := by
  rw [same]
  exact ⟨fun _ _ tight => tight, id, fun _ => id, fun _ _ => id⟩

variable {operator : String} {left left' right right' : Tree}

theorem isMisused_eq_false (standsLeft : StandsFor left left')
    (standsRight : StandsFor right right') (boundLeft : 1 ≤ left.strength)
    (boundRight : 1 ≤ right.strength) (used : isMisused operator left right = false) :
    isMisused operator left' right' = false := by
  have operatorLeft := standsLeft.hasOperator boundLeft
  have operatorRight := standsRight.hasOperator boundRight
  have isUnary := standsLeft.isUnary boundLeft
  unfold isMisused at used ⊢
  grind

/-- Where others stand for the operands of an operation, they are operands as well. -/
theorem binds_binary (standsLeft : StandsFor left left') (standsRight : StandsFor right right')
    (binds : (node (.binary operator) [left, right]).Binds) :
    (node (.binary operator) [left', right']).Binds := by
  obtain ⟨first, second, used⟩ := binds
  have boundLeft : 1 ≤ left.strength := by
    cases first with
    | inl isCast =>
      rw [strength_of_isCast isCast]
      decide
    | inr tight => exact Nat.le_trans (one_le_leastLeft operator) tight
  have boundRight := Nat.le_trans (one_le_leastRight operator) second
  have lowLeft : leastLeft operator ≤ 18 := Nat.le_trans (leastLeft_le operator) (by decide)
  have lowRight : leastRight operator ≤ 18 := Nat.le_trans (leastRight_le operator) (by decide)
  exact ⟨first.imp standsLeft.isCast (standsLeft.le_strength _ lowLeft),
    standsRight.le_strength _ lowRight second,
    isMisused_eq_false standsLeft standsRight boundLeft boundRight used⟩

/-- What parts are put in the place of those of a node bind as tightly as is asked for. -/
theorem binds_map {form : Form} {parts : List Tree} {f : Tree → Tree}
    (stands : ∀ part ∈ parts, StandsFor part (f part)) (binds : (node form parts).Binds) :
    (node form (parts.map f)).Binds := by
  have all {least : Nat} {trees : List Tree} (low : least ≤ 18) (inside : trees ⊆ parts)
      (tight : ∀ tree ∈ trees, least ≤ tree.strength) :
      ∀ tree ∈ trees.map f, least ≤ tree.strength :=
    List.forall_mem_map.mpr fun tree member =>
      (stands tree (inside member)).le_strength _ low (tight tree member)
  have one {least : Nat} {part : Tree} (low : least ≤ 18) (member : part ∈ parts)
      (tight : least ≤ part.strength) : least ≤ (f part).strength :=
    (stands part member).le_strength _ low tight
  cases form with
  | member | tagged | nonNull =>
    cases parts with
    | nil => trivial
    | cons object parts => exact one (by decide) List.mem_cons_self binds
  | call | new =>
    match parts, binds with
    | [], _ => trivial
    | [_], _ => trivial
    | callee :: types :: arguments, binds =>
      refine ⟨one (by decide) List.mem_cons_self binds.1, all (by decide) ?_ binds.2⟩
      exact fun _ member => List.mem_cons_of_mem _ (List.mem_cons_of_mem _ member)
  | unary | await | yield | spread =>
    match parts, binds with
    | [], _ => trivial
    | [operand], binds => exact one (by decide) List.mem_cons_self binds
    | _ :: _ :: _, _ => trivial
  | assertion | assign | pair =>
    match parts, binds with
    | [], _ => trivial
    | [_], _ => trivial
    | [_, value], binds => exact one (by decide) (List.mem_cons_of_mem _ List.mem_cons_self) binds
    | _ :: _ :: _ :: _, _ => trivial
  | update operator before =>
    match parts, binds with
    | [], _ => trivial
    | [operand], binds =>
      refine one ?_ List.mem_cons_self binds
      split <;> decide
    | _ :: _ :: _, _ => trivial
  | binary operator =>
    match parts, binds with
    | [], _ => trivial
    | [_], _ => trivial
    | [left, right], binds =>
      exact binds_binary (stands left List.mem_cons_self)
        (stands right (List.mem_cons_of_mem _ List.mem_cons_self)) binds
    | _ :: _ :: _ :: _, _ => trivial
  | cast =>
    match parts, binds with
    | [], _ => trivial
    | [_], _ => trivial
    | [operand, type], binds => exact one (by decide) List.mem_cons_self binds
    | _ :: _ :: _ :: _, _ => trivial
  | conditional =>
    match parts, binds with
    | [], _ => trivial
    | [_], _ => trivial
    | [_, _], _ => trivial
    | [test, consequent, alternative], binds =>
      exact ⟨one (by decide) (by simp) binds.1, one (by decide) (by simp) binds.2.1,
        one (by decide) (by simp) binds.2.2⟩
    | _ :: _ :: _ :: _ :: _, _ => trivial
  | arrow =>
    match parts, binds with
    | [], _ => trivial
    | [_], _ => trivial
    | [_, _], _ => trivial
    | [_, _, _], _ => trivial
    | [_, _, _, body], binds => exact one (by decide) (by simp) binds
    | _ :: _ :: _ :: _ :: _ :: _, _ => trivial
  | sequence | array => exact all (by decide) (List.Subset.refl parts) binds
  | _ => trivial

/-! Code without comments and line numbers -/

theorem standsFor_unplaced (tree : Tree) : StandsFor tree tree.unplaced := by
  obtain ⟨form, parts⟩ := tree
  rw [unplaced]
  unfold bare
  split
  · refine ⟨fun least _ loose => ?_, fun isCast => Bool.noConfusion isCast, fun loose => ?_,
      fun loose => ?_⟩
    · exact Nat.le_trans loose (Nat.zero_le _)
    · exact (Nat.not_succ_le_zero 0 loose).elim
    · exact (Nat.not_succ_le_zero 0 loose).elim
  · exact ⟨fun _ _ tight => tight, id, fun _ => id, fun _ _ => id⟩
  · exact .ofForm rfl

theorem unplaced_of_strength {form : Form} (tight : 19 ≤ form.strength) (parts : List Tree) :
    (node form parts).unplaced = node form (unplacedAll parts) := by
  cases form <;> first | rfl | exact absurd tight (by simp)

theorem isCallee_unplaced {tree : Tree} (callee : tree.isCallee = true) :
    tree.unplaced.isCallee = true := by
  induction tree using isCallee.induct with
  | case1 chain object parts ih => exact ih callee
  | case2 line quasis tag parts ih => exact ih callee
  | case3 object parts ih => exact ih callee
  | case4 => rfl
  | case5 chain first parts =>
    obtain ⟨form, parts'⟩ := first
    obtain rfl : form = .superKeyword := beq_iff_eq.mp callee
    rfl
  | case6 form parts =>
    have tight : 19 ≤ form.strength := by
      rw [isCallee] at callee <;> first | assumption | exact of_decide_eq_true callee
    rw [unplaced_of_strength tight]
    exact isCallee_of_strength tight

theorem isReference_unplaced {strict : Bool} {tree : Tree}
    (reference : isReference strict tree = true) : isReference strict tree.unplaced = true := by
  induction tree using isReference.induct <;> simp_all [isReference, unplaced, unplacedAll, bare]

theorem isTarget_unplaced {tree : Tree} (target : tree.isTarget = true) :
    tree.unplaced.isTarget = true := by
  obtain ⟨form, parts⟩ := tree
  unfold isTarget at target
  split at target
  case h_4 => exact isTarget_of_reference (isReference_unplaced target)
  all_goals
    rename_i same
    obtain rfl : form = _ := same
    rfl

theorem isBlock_unplaced {tree : Tree} (block : tree.isBlock = true) :
    tree.unplaced.isBlock = true := by
  obtain ⟨form, parts⟩ := tree
  unfold isBlock at block
  split at block
  · rename_i same
    obtain rfl : form = _ := same
    rfl
  · cases block

theorem admits_unplaced {form : Form} {parts : List Tree} (admits : (node form parts).Admits) :
    (node form (parts.map unplaced)).Admits := by
  cases form with
  | new =>
    cases parts with
    | nil => trivial
    | cons callee parts => exact isCallee_unplaced admits
  | arrow =>
    match parts, admits with
    | [], _ => trivial
    | [_], _ => trivial
    | [_, _], _ => trivial
    | [_, _, _], _ => trivial
    | [_, _, _, body], admits =>
      exact admits.imp isBlock_unplaced fun noBrace => by rwa [opening_unplaced]
    | _ :: _ :: _ :: _ :: _ :: _, _ => trivial
  | expressionStatement =>
    match parts, admits with
    | [], _ => trivial
    | [value], admits =>
      change value.unplaced.opening = _ ∨ value.unplaced.opening = _
      rwa [opening_unplaced]
    | _ :: _ :: _, _ => trivial
  | update =>
    match parts, admits with
    | [], _ => trivial
    | [operand], admits => exact isReference_unplaced admits
    | _ :: _ :: _, _ => trivial
  | assign =>
    match parts, admits with
    | [], _ => trivial
    | [_], _ => trivial
    | [target, _], admits => exact isTarget_unplaced admits
    | _ :: _ :: _ :: _, _ => trivial
  | _ => trivial

/-- What holds of all nodes holds of them without comments and line numbers. -/
theorem forall_nodes_unplaced {holds : Tree → Prop}
    (kept : ∀ {form parts}, holds (node form parts) → holds (node form (parts.map unplaced)))
    (lineless : ∀ {line quasis parts}, holds (node (.tagged line quasis) parts) →
      holds (node (.tagged 0 quasis) parts)) (tree : Tree)
    (all : ∀ inner ∈ tree.nodes, holds inner) : ∀ inner ∈ tree.unplaced.nodes, holds inner := by
  induction tree using inductionOn with
  | node form parts ih =>
    obtain ⟨below, self⟩ := forall_nodes.mp all
    have inside : ∀ part ∈ parts.map unplaced, ∀ inner ∈ part.nodes, holds inner :=
      List.forall_mem_map.mpr fun part member => ih part member (below part member)
    rw [unplaced, unplacedAll_eq_map]
    unfold bare
    split
    · split
      · rename_i tree same
        exact inside tree (same ▸ List.mem_singleton_self tree)
      · exact forall_nodes.mpr ⟨inside, kept self⟩
    · exact forall_nodes.mpr ⟨inside, lineless (kept self)⟩
    · exact forall_nodes.mpr ⟨inside, kept self⟩

theorem binds_lineless {line : Nat} {quasis : List Quasi} {parts : List Tree}
    (binds : (node (.tagged line quasis) parts).Binds) :
    (node (.tagged 0 quasis) parts).Binds := by
  cases parts <;> exact binds

theorem isGrouped_unplaced (tree : Tree) (grouped : ∀ inner ∈ tree.nodes, inner.IsGrouped) :
    ∀ inner ∈ tree.unplaced.nodes, inner.IsGrouped :=
  forall_nodes_unplaced
    (fun here => ⟨binds_map (fun part _ => standsFor_unplaced part) here.1, admits_unplaced here.2⟩)
    (fun here => ⟨binds_lineless here.1, trivial⟩) tree grouped

end Tree

end CssInline.Code
