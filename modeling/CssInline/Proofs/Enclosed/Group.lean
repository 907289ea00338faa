import CssInline.Proofs.Enclosed.Pattern
import CssInline.Proofs.Landing

/-! Expressions that are one group: their opening parenthesis is read first and their closing one
last. -/

namespace CssInline.Code

open Reader

namespace Tree

/-- An expression in parentheses, whatever comments stand before it. -/
def IsGroup (tree : Tree) : Prop :=
  tree.unplaced.form = .paren

theorem not_isGroup {form : Form} (other : form ≠ .paren)
    (noComments : ∀ comments, form ≠ .commented comments) (parts : List Tree) :
    ¬ (node form parts).IsGroup := by
  unfold IsGroup unplaced bare
  split
  · exact absurd rfl (noComments _)
  · simp
  · exact other

end Tree

namespace Grammar

variable {rules : Rules} {cursor after : Cursor} {tree : Tree}

/-! Accesses -/

/-- A step of an access takes nothing, or gives an access that is no group. -/
theorem accessStep_cases {line : Nat} {calls : Bool} {access : Access} {next : Access ⊕ Tree}
    (read : accessStep rules scriptWithin line calls access cursor = some (next, after)) :
    next = .inr access.tree ∧ after = cursor ∨
      ∃ longer, next = .inl longer ∧ ¬ longer.tree.IsGroup := by
  have grows {reader : Reader (Access ⊕ Tree)} (read : reader cursor = some (next, after))
      (gives : reader.Gives cursor fun next => ∃ longer, next = .inl longer ∧
        ¬ longer.tree.IsGroup) :
      next = .inr access.tree ∧ after = cursor ∨
        ∃ longer, next = .inl longer ∧ ¬ longer.tree.IsGroup :=
    .inr (gives (.refl cursor) read)
  have goesOn {start : Cursor} {reader : Reader Access}
      (gives : reader.Gives start fun longer => ¬ longer.tree.IsGroup) :
      (do return .inl (← reader) : Reader (Access ⊕ Tree)).Gives start fun next =>
        ∃ longer, next = .inl longer ∧ ¬ longer.tree.IsGroup :=
    .bind gives fun longer other => .pure ⟨longer, rfl, other⟩
  have member (access : Access) (property : Tree) : ¬ (access.member property).tree.IsGroup :=
    Tree.not_isGroup (by simp) (by simp) _
  have call (access : Access) (types : Tree) (arguments : List Tree) :
      ¬ (access.call types arguments).tree.IsGroup :=
    Tree.not_isGroup (by simp) (by simp) _
  unfold accessStep at read
  rw [bind_of_some (rfl : atBacktick cursor = some (_, cursor))] at read
  split at read
  · refine grows read (goesOn ?_)
    exact .last fun _ => .last fun _ => .pure (Tree.not_isGroup (by simp) (by simp) _)
  rw [bind_of_some (mark?_apply cursor)] at read
  split at read
  case h_1 => exact grows read (.last fun _ => .last fun property => .pure ⟨_, rfl, member _ _⟩)
  case h_2 => exact grows read (.last fun property => .pure ⟨_, rfl, member _ _⟩)
  case h_3 =>
    split at read
    · exact grows read (.last fun arguments => .pure ⟨_, rfl, call _ _ _⟩)
    · cases read
      exact .inl ⟨rfl, rfl⟩
  case h_4 =>
    refine grows read (.last fun _ => goesOn ?_)
    unfold optionalStep
    repeat' first
      | exact .pure (member _ _)
      | exact .pure (call _ _ _)
      | with_reducible refine .last fun _ => ?_
      | split
  all_goals
    cases read
    exact .inl ⟨rfl, rfl⟩

theorem primary_of_isGroup {calls : Bool} (group : tree.IsGroup)
    (read : access rules scriptWithin calls cursor = some (tree, after)) :
    primary rules scriptWithin cursor = some (tree, after) := by
  unfold access at read
  rw [bind_of_some (rfl : lineNumber cursor = some (cursor.line, cursor))] at read
  obtain ⟨first, middle, isFirst, read⟩ := bind_eq_some.mp read
  rcases iterate_eq_some read with done | ⟨next, last, fuel, step, read⟩
  · rcases accessStep_cases done with ⟨same, rfl⟩ | ⟨_, same, _⟩
    · cases same
      exact isFirst
    · cases same
  · rcases accessStep_cases step with ⟨same, _⟩ | ⟨_, same, other⟩
    · cases same
    · cases same
      refine absurd group ?_
      refine (?_ : Gives last _ fun tree : Tree => ¬ tree.IsGroup) (.refl last) read
      refine @Gives.iterateFrom _ _ last (fun access : Access => ¬ access.tree.IsGroup) _ _
        (fun access other => ?_) fuel _ other
      intro cursor _ next after step
      rcases accessStep_cases step with ⟨rfl, _⟩ | ⟨_, rfl, longer⟩
      · exact other
      · exact longer

/-! Operators -/

theorem operand_of_isGroup (group : tree.IsGroup)
    (read : postfixed rules scriptWithin cursor = some (tree, after)) :
    rules .operand scriptWithin cursor = some (tree, after) := by
  obtain ⟨operand, middle, isOperand, read⟩ := bind_eq_some.mp read
  rw [bind_of_some (rfl : afterBreak middle = some (_, middle))] at read
  split at read
  · cases read
    exact isOperand
  obtain ⟨_, _, accepted, read⟩ := bind_eq_some.mp read
  rcases acceptOneOf_eq_some accepted with ⟨rfl, same⟩ | ⟨_, _, rfl, _⟩
  · rw [same] at read
    cases read
    exact isOperand
  · obtain ⟨_, _, _, same⟩ := bind_eq_some.mp read
    cases same
    exact absurd group (Tree.not_isGroup (by simp) (by simp) _)

theorem unary_of_paren (isMark : markOf? cursor.rest = some "(") :
    unary rules scriptWithin cursor = postfixed rules scriptWithin cursor := by
  have acceptNone {tokens : List String} (other : "(" ∉ tokens) :
      acceptOneOf tokens cursor = some (none, cursor) :=
    acceptOneOf_of_other fun token isToken => by
      rw [tokenOf?, isMark] at isToken
      cases isToken
      exact other
  unfold unary
  rw [bind_of_some (acceptNone (by decide)), bind_of_some (acceptNone (by decide))]
  rfl

theorem not_isGroup_of_complete? {pending pending' : List (Tree × String)} {right : Tree}
    (completed : complete? (fun _ => true) pending right = some (pending', tree))
    (several : pending ≠ [] ∨ ¬ right.IsGroup) : ¬ tree.IsGroup := by
  induction pending generalizing right with
  | nil =>
    cases completed
    exact several.resolve_left (fun no => no rfl)
  | cons first pending ih =>
    obtain ⟨node, isNode, completed⟩ := Option.bind_eq_some_iff.mp completed
    refine ih completed (.inr ?_)
    unfold binaryNode? at isNode
    split at isNode
    · cases isNode
    · cases isNode
      exact Tree.not_isGroup (by simp) (by simp) _

theorem not_isGroup_of_combineFrom? {pending : List (Tree × String)} {last : Tree}
    {operations : List Operation} (combined : combineFrom? pending last operations = some tree)
    (several : pending ≠ [] ∨ operations ≠ [] ∨ ¬ last.IsGroup) : ¬ tree.IsGroup := by
  induction operations generalizing pending last with
  | nil =>
    obtain ⟨⟨_, _⟩, completed, rfl⟩ := Option.map_eq_some_iff.mp combined
    refine not_isGroup_of_complete? completed ?_
    simpa using several
  | cons operation operations ih =>
    cases operation with
    | binary operator operand =>
      obtain ⟨⟨pending', left⟩, _, combined⟩ := Option.bind_eq_some_iff.mp combined
      exact ih combined (.inl (List.cons_ne_nil _ _))
    | cast operator type =>
      obtain ⟨⟨pending', left⟩, _, combined⟩ := Option.bind_eq_some_iff.mp combined
      exact ih combined (.inr (.inr (Tree.not_isGroup (by simp) (by simp) _)))

theorem unary_of_isGroup (group : tree.IsGroup)
    (read : binary rules scriptWithin cursor = some (tree, after)) :
    rules .unary scriptWithin cursor = some (tree, after) := by
  obtain ⟨first, middle, isFirst, read⟩ := bind_eq_some.mp read
  obtain ⟨operations, last, isList, read⟩ := bind_eq_some.mp read
  unfold ofOption at read
  split at read
  case h_2 => cases read
  rename_i combined
  cases read
  have noOperations : operations = [] := by
    by_contra several
    exact not_isGroup_of_combineFrom? combined (.inr (.inl several)) group
  subst noOperations
  cases combined
  rcases iterate_eq_some isList with done | ⟨state, start, fuel, step, rest⟩
  · rw [operationStep_apply] at done
    split at done
    · cases done
      exact isFirst
    · obtain ⟨_, _, _, same⟩ := bind_eq_some.mp done
      obtain ⟨_, _, _, same⟩ := bind_eq_some.mp same
      cases same
  · have going : state ≠ [] := by
      rw [operationStep_apply] at step
      split at step
      · cases step
      · obtain ⟨_, _, _, same⟩ := bind_eq_some.mp step
        obtain ⟨_, _, _, same⟩ := bind_eq_some.mp same
        cases same
        exact List.cons_ne_nil _ _
    refine absurd rfl ((?_ : Gives start _ fun operations : List Operation => operations ≠ [])
      (.refl start) rest)
    refine @Gives.iterateFrom _ _ start (fun done : List Operation => done ≠ []) _ _
      (fun done going => ?_) fuel _ going
    unfold operationStep
    repeat' first
      | exact .pure (List.cons_ne_nil _ _)
      | exact .pure (mt List.reverse_eq_nil_iff.mp going)
      | with_reducible refine .last fun _ => ?_
      | split

theorem binary_of_isGroup (group : tree.IsGroup)
    (read : conditional rules scriptWithin cursor = some (tree, after)) :
    binary rules scriptWithin cursor = some (tree, after) := by
  obtain ⟨test, middle, isTest, read⟩ := bind_eq_some.mp read
  rcases accept_cases read with ⟨_, _, same⟩ | ⟨_, _, _, read⟩
  · cases same
    exact isTest
  · obtain ⟨_, _, _, read⟩ := bind_eq_some.mp read
    obtain ⟨_, _, _, read⟩ := bind_eq_some.mp read
    obtain ⟨_, _, _, same⟩ := bind_eq_some.mp read
    cases same
    exact absurd group (Tree.not_isGroup (by simp) (by simp) _)

theorem not_isGroup_of_arrow? {start : Cursor} : (arrow? rules scriptWithin).Gives start
    fun tree? => ∀ tree, tree? = some tree → ¬ tree.IsGroup := by
  have isArrow (isAsync : Bool) (types list result : Tree) :
      (do return some (← arrowFrom rules scriptWithin isAsync types list result) :
        Reader (Option Tree)).Gives start
          fun tree? => ∀ tree, tree? = some tree → ¬ tree.IsGroup := by
    have noGroup : (arrowFrom rules scriptWithin isAsync types list result).Gives start
        (¬ ·.IsGroup) := .last fun _ => .pure (Tree.not_isGroup (by simp) (by simp) _)
    refine .bind noGroup fun arrow other => .pure ?_
    rintro _ ⟨⟩
    exact other
  rw [arrow?_eq]
  repeat' first
    | exact isArrow _ _ _ _
    | exact .pure nofun
    | with_reducible refine .last fun _ => ?_
    | split

theorem conditional_of_isGroup (group : tree.IsGroup)
    (read : assignment rules scriptWithin cursor = some (tree, after)) :
    conditional rules scriptWithin cursor = some (tree, after) := by
  unfold assignment at read
  rw [bind_of_some (atWord_apply "yield" cursor)] at read
  change (arrow? _ scriptWithin >>= _) cursor = _ at read
  obtain ⟨arrow?, start, isArrow, read⟩ := bind_eq_some.mp read
  rcases opening_of_arrow? isArrow with ⟨rfl, same⟩ | ⟨arrow, rfl, _⟩
  · rw [same] at read
    obtain ⟨left, middle, isLeft, read⟩ := bind_eq_some.mp read
    unfold assignmentFrom at read
    rw [bind_of_some (atMark_apply "=" middle)] at read
    split at read
    · obtain ⟨_, _, _, read⟩ := bind_eq_some.mp read
      obtain ⟨_, _, _, read⟩ := bind_eq_some.mp read
      obtain ⟨_, _, _, same⟩ := bind_eq_some.mp read
      cases same
      exact absurd group (Tree.not_isGroup (by simp) (by simp) _)
    obtain ⟨_, _, accepted, read⟩ := bind_eq_some.mp read
    rcases acceptOneOf_eq_some accepted with ⟨rfl, same⟩ | ⟨_, _, rfl, _⟩
    · rw [same] at read
      cases read
      exact isLeft
    · obtain ⟨_, _, _, read⟩ := bind_eq_some.mp read
      obtain ⟨_, _, _, same⟩ := bind_eq_some.mp read
      cases same
      exact absurd group (Tree.not_isGroup (by simp) (by simp) _)
  · cases read
    exact absurd group (not_isGroup_of_arrow? (.refl _) isArrow _ rfl)

theorem assignment_of_isGroup (group : tree.IsGroup)
    (read : expression rules scriptWithin cursor = some (tree, after)) :
    rules .assignment scriptWithin cursor = some (tree, after) := by
  obtain ⟨trees, last, items, read⟩ := bind_eq_some.mp read
  split at read
  case h_2 =>
    cases read
    exact absurd group (Tree.not_isGroup (by simp) (by simp) _)
  cases read
  rcases iterate_eq_some items with done | ⟨state, start, fuel, step, rest⟩
  · obtain ⟨first, middle, isFirst, done⟩ := bind_eq_some.mp done
    rcases accept_cases done with ⟨_, _, same⟩ | ⟨_, _, _, same⟩
    · cases same
      exact isFirst
    · cases same
  · have begun : 1 ≤ state.length := by
      obtain ⟨first, middle, _, step⟩ := bind_eq_some.mp step
      rcases accept_cases step with ⟨_, _, same⟩ | ⟨_, _, _, same⟩
      · cases same
      · cases same
        exact Nat.le_refl 1
    have several : 2 ≤ [tree].length := by
      refine (?_ : Gives start _ fun trees : List Tree => 2 ≤ trees.length) (.refl start) rest
      refine @Gives.iterateFrom _ _ start (fun done : List Tree => 1 ≤ done.length) _ _
        (fun done begun => ?_) fuel _ begun
      refine .last fun tree => .last fun going => ?_
      split
      · exact .pure (Nat.le_add_left _ _)
      · exact .pure (by simpa using begun)
    exact absurd several (Nat.not_succ_le_self 1)

/-! The parentheses -/

theorem primary_of_paren (isMark : markOf? cursor.rest = some "(") :
    primary rules scriptWithin cursor = parenthesized rules scriptWithin cursor := by
  obtain ⟨rest, line, afterBreak, comments⟩ := cursor
  obtain ⟨rest', rfl⟩ := prefix_of_markOf? isMark
  rfl

/-- An expression that is one group is read as what stands in the parentheses. -/
theorem parenthesized_of_isGroup {depth : Nat} (isMark : markOf? cursor.rest = some "(")
    (group : tree.IsGroup)
    (read : rulesOf (depth + 4) .expression scriptWithin cursor = some (tree, after)) :
    parenthesized (rulesOf depth) scriptWithin cursor = some (tree, after) := by
  have isAssignment : assignment (rulesOf (depth + 2)) scriptWithin cursor = some (tree, after) :=
    assignment_of_isGroup group read
  have isUnary : unary (rulesOf (depth + 1)) scriptWithin cursor = some (tree, after) :=
    unary_of_isGroup group (binary_of_isGroup group (conditional_of_isGroup group isAssignment))
  rw [unary_of_paren isMark] at isUnary
  have isOperand : access (rulesOf depth) scriptWithin true cursor = some (tree, after) :=
    operand_of_isGroup group isUnary
  rw [← primary_of_paren isMark]
  exact primary_of_isGroup group isOperand

end Grammar

end CssInline.Code
