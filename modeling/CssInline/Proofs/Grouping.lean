import CssInline.Code.Operator
import CssInline.Code.Target
import CssInline.Proofs.Opening.Text

/-! How tightly expressions bind, and what parts a node can have without parentheses around
them. -/

namespace CssInline.Code

/-- How tightly the outermost operation of an expression binds. -/
@[simp] def Form.strength : Form → Nat
  | .sequence | .commented _ => 0
  | .assign _ | .arrow _ | .yield _ => 1
  | .conditional => 2
  | .binary operator => 2 + bindingStrength operator
  | .cast _ => 2 + bindingStrength "in"
  | .unary _ | .await | .assertion | .update _ true => 15
  | .update _ false => 16
  | .member _ | .call _ | .tagged _ _ | .nonNull | .new _ => 18
  | _ => 19

theorem bindingStrength_le (operator : String) : bindingStrength operator ≤ 12 := by
  unfold bindingStrength precedence?
  split <;> decide

namespace Tree

def strength (tree : Tree) : Nat :=
  tree.form.strength

@[simp] theorem strength_node (form : Form) (parts : List Tree) :
    (node form parts).strength = form.strength := rfl

@[simp] theorem strength_leaf (form : Form) : (leaf form).strength = form.strength := rfl

/-- Whether `new` can stand before it and create what it evaluates to: no call is accessed. -/
def isCallee : Tree → Bool
  | .node (.member _) (object :: _) => object.isCallee
  | .node (.tagged _ _) (tag :: _) => tag.isCallee
  | .node .nonNull (object :: _) => object.isCallee
  | .node (.new _) _ => true
  | .node (.call _) (callee :: _) => callee.form == .superKeyword
  | .node form _ => 19 ≤ form.strength

theorem isCallee_of_strength {tree : Tree} (tight : 19 ≤ tree.strength) : tree.isCallee = true := by
  obtain ⟨form, parts⟩ := tree
  have whole : isCallee (node form parts) = decide (19 ≤ form.strength) := by
    cases form <;> first | rfl | exact absurd tight (by simp)
  rw [whole]
  exact decide_eq_true tight

def isCast (tree : Tree) : Bool :=
  match tree.form with
  | .cast _ => true
  | _ => false

theorem strength_of_isCast {tree : Tree} (isCast : tree.isCast = true) :
    tree.strength = 2 + bindingStrength "in" := by
  unfold Tree.isCast at isCast
  split at isCast
  · rename_i same
    rw [strength, same]
    rfl
  · cases isCast

end Tree

/-- How tightly an expression must bind to stand before the operator. -/
def leastLeft (operator : String) : Nat :=
  if operator == "**" then 15 else 2 + bindingStrength operator

/-- How tightly an expression must bind to stand after the operator. -/
def leastRight (operator : String) : Nat :=
  if operator == "**" then 14 else 3 + bindingStrength operator

theorem isReference_of_strict {strict : Bool} {tree : Tree}
    (found : isReference strict tree = true) : isReference false tree = true := by
  induction tree using isReference.induct <;> simp_all [isReference]

/-- Whether something can be assigned to it. -/
def Tree.isTarget (tree : Tree) : Bool :=
  match tree.form with
  | .binding _ | .arrayPattern | .objectPattern => true
  | _ => isReference false tree

theorem isTarget_of_reference {tree : Tree} (found : isReference false tree = true) :
    tree.isTarget = true := by
  unfold Tree.isTarget
  split <;> first | rfl | exact found

theorem isTarget_of_simpleTarget? {strict : Bool} {tree target : Tree}
    (found : simpleTarget? strict tree = some target) : target.isTarget = true := by
  unfold simpleTarget? at found
  split at found
  · rename_i isReference'
    split at found
    · cases found
      rfl
    · cases found
      exact isTarget_of_reference (isReference_of_strict isReference')
  · cases found

theorem isTarget_of_target? {strict : Bool} {tree target : Tree}
    (found : target? strict tree = some target) : target.isTarget = true := by
  unfold target? at found
  split at found
  · obtain ⟨_, _, rfl⟩ := Option.map_eq_some_iff.mp found
    rfl
  · obtain ⟨_, _, rfl⟩ := Option.map_eq_some_iff.mp found
    rfl
  · exact isTarget_of_simpleTarget? found

namespace Tree

/-- Whether the parts of a node bind as tightly as their places ask. Brackets around a place ask for
nothing. -/
@[simp] def Binds : Tree → Prop
  | .node (.member _) (object :: _) => 18 ≤ object.strength
  | .node (.call _) (callee :: _ :: arguments) =>
    18 ≤ callee.strength ∧ ∀ argument ∈ arguments, 1 ≤ argument.strength
  | .node (.tagged _ _) (tag :: _) => 18 ≤ tag.strength
  | .node .nonNull (object :: _) => 18 ≤ object.strength
  | .node (.new _) (callee :: _ :: arguments) =>
    18 ≤ callee.strength ∧ ∀ argument ∈ arguments, 1 ≤ argument.strength
  | .node (.unary _) [operand] | .node .await [operand] => 15 ≤ operand.strength
  | .node .assertion [_, operand] => 15 ≤ operand.strength
  | .node (.update _ before) [operand] => (if before then 15 else 18) ≤ operand.strength
  | .node (.binary operator) [left, right] =>
    -- A type ends before the operator.
    (left.isCast = true ∨ leastLeft operator ≤ left.strength) ∧
      leastRight operator ≤ right.strength ∧ isMisused operator left right = false
  | .node (.cast _) [operand, _] => 2 + bindingStrength "in" ≤ operand.strength
  | .node .conditional [test, consequent, alternative] =>
    3 ≤ test.strength ∧ 1 ≤ consequent.strength ∧ 1 ≤ alternative.strength
  | .node (.assign _) [_, value] | .node (.yield _) [value] => 1 ≤ value.strength
  | .node (.arrow _) [_, _, _, body] => 1 ≤ body.strength
  | .node .spread [value] | .node .pair [_, value] => 1 ≤ value.strength
  | .node .sequence parts | .node .array parts => ∀ part ∈ parts, 1 ≤ part.strength
  | _ => True

/-- Whether the parts of a node are what their places ask for beside how tightly they bind: after
`new` no call is accessed, the expression of an arrow function opens with no brace and that of a
statement plainly, and what is updated or assigned can be assigned to. -/
@[simp] def Admits : Tree → Prop
  | .node (.new _) (callee :: _) => callee.isCallee = true
  | .node (.arrow _) [_, _, _, body] => body.isBlock = true ∨ body.opening ≠ .brace
  | .node .expressionStatement [value] => value.opening = .plain ∨ value.opening = .letBracket
  | .node (.update _ _) [operand] => isReference false operand = true
  | .node (.assign _) [target, _] => target.isTarget = true
  | _ => True

/-- Whether the parts of a node stay what they are where they are written without parentheses. -/
@[simp] def IsGrouped (tree : Tree) : Prop :=
  tree.Binds ∧ tree.Admits

theorem isGrouped_leaf (form : Form) : (node form []).IsGrouped := by
  cases form <;> simp

end Tree

end CssInline.Code
