import CssInline.Proofs.Grouping.Operation
import CssInline.Proofs.Opening.Expression

/-! How tightly what the rules of the grammar give binds. -/

namespace CssInline.Code

open Reader

namespace Grammar

/-- What is known of all that a rule gives. -/
@[simp] def Goal.Suits : Goal → Tree → Prop
  | .assignment, tree => 1 ≤ tree.strength
  | .unary, tree => 15 ≤ tree.strength
  | .operand, tree => 18 ≤ tree.strength
  | .callee, tree => 18 ≤ tree.strength
  | .element, tree => 19 ≤ tree.strength
  | _, _ => True

/-- The rules for smaller pieces of code give what binds as tightly as they ask for, opens as the
text does, and can be created if it is read after `new`. -/
class Binding (rules : Rules) : Prop where
  suits : ∀ start goal within, (rules goal within).Gives start goal.Suits
  opens : ∀ within, Opens rules within .expression ∧ Opens rules within .assignment
  isCallee : ∀ ⦃within cursor tree after⦄, rules .callee within cursor = some (tree, after) →
    keywordOf? cursor.rest ≠ some "import" → tree.isCallee = true

variable {start cursor after : Cursor} {rules : Rules} [Binding rules] {within : Within}
  {tree : Tree}

/-! Operands -/

/-- An operand, and before it `new` can stand if this is asked for. -/
def IsOperand (inNew : Prop) (tree : Tree) : Prop :=
  18 ≤ tree.strength ∧ (inNew → tree.isCallee = true)

variable {inNew : Prop}

omit [Binding rules] in
theorem isOperand_of_strength (tight : 19 ≤ tree.strength) : IsOperand inNew tree :=
  ⟨Nat.le_of_succ_le tight, fun _ => Tree.isCallee_of_strength tight⟩

omit [Binding rules] in
theorem isOperand_wordExpression (noImport : inNew → keywordOf? cursor.rest ≠ some "import")
    (read : wordExpression rules within cursor = some (tree, after)) : IsOperand inNew tree := by
  unfold wordExpression keywordLeaf functionTree functionFrom classTree superAccess newExpression
    importAccess variableTree at read
  rw [bind_of_some (keyword?_apply cursor)] at read
  split at read
  case' h_9 isImport =>
    have noNew (isNew : inNew) : False := noImport isNew isImport
  all_goals
    refine (?_ : Gives cursor _ (IsOperand inNew)) (.refl cursor) read
    repeat' first
      | exact .pure (isOperand_of_strength (Nat.le_refl 19))
      | exact .pure ⟨Nat.le_refl 18, fun _ => rfl⟩
      | exact .pure ⟨Nat.le_refl 18, fun isNew => (noNew isNew).elim⟩
      | with_reducible refine .last fun _ => ?_
      | split
      | dsimp only

theorem isOperand_primary (noImport : inNew → keywordOf? cursor.rest ≠ some "import")
    (read : primary rules within cursor = some (tree, after)) : IsOperand inNew tree := by
  have here := Cursor.Reaches.refl cursor
  have isPrivate : privateName.Gives cursor (IsOperand inNew) := by
    unfold privateName
    repeat' first
      | exact .pure (isOperand_of_strength (Nat.le_refl 19))
      | with_reducible refine .last fun _ => ?_
  unfold primary template parenthesized array object searchedName at read
  rw [bind_of_some (rfl : atQuote cursor = some (_, cursor))] at read
  split at read
  case' isFalse =>
    rw [bind_of_some (rfl : atDigit cursor = some (_, cursor))] at read
    split at read
  case' isFalse.isFalse =>
    rw [bind_of_some (rfl : atBacktick cursor = some (_, cursor))] at read
    split at read
  case' isFalse.isFalse.isFalse =>
    rw [bind_of_some (mark?_apply cursor)] at read
    split at read
  case h_6 =>
    refine Gives.bind isPrivate (fun _ isOperand => ?_) here read
    exact .last fun _ => .last fun _ => .pure isOperand
  case h_7 =>
    refine Gives.last (fun _ => ?_) here read
    exact .bind (Binding.suits _ .element _) fun _ tight => .last fun _ =>
      .pure (isOperand_of_strength tight)
  case h_8 => exact isOperand_wordExpression noImport read
  all_goals
    refine (?_ : Gives cursor _ (IsOperand inNew)) here read
    repeat' first
      | exact .pure (isOperand_of_strength (Nat.le_refl 19))
      | with_reducible refine .last fun _ => ?_

theorem gives_primary : (primary rules within).Gives start (18 ≤ ·.strength) := by
  intro cursor _ tree after read
  have isOperand : IsOperand False tree := isOperand_primary nofun read
  exact isOperand.1

/-! Accesses -/

omit [Binding rules] in
theorem gives_require (condition : Bool) :
    (require condition).Gives start fun _ => condition = true :=
  fun _ _ _ _ read => (require_eq_some.mp read).1

section Steps

variable {access : Access} {calls : Bool} {line : Nat}

/-- What a step of an access gives: a longer access or the end, both as operands. -/
def StepIsOperand (inNew : Prop) : Access ⊕ Tree → Prop :=
  Sum.elim (fun access => IsOperand inNew access.tree) (IsOperand inNew)

omit [Binding rules] in
theorem isOperand_taggedStep (isOperand : IsOperand inNew access.tree) (types : Tree) :
    (taggedStep rules within line access types).Gives start fun next =>
      IsOperand inNew next.tree := by
  unfold taggedStep
  exact .last fun _ => .last fun _ => .pure ⟨Nat.le_refl 18, isOperand.2⟩

omit [Binding rules] in
theorem isOperand_optionalStep (noNew : ¬ inNew) :
    (optionalStep rules within access).Gives start fun next => IsOperand inNew next.tree := by
  unfold optionalStep
  repeat' first
    | exact .pure ⟨Nat.le_refl 18, fun isNew => (noNew isNew).elim⟩
    | with_reducible refine .last fun _ => ?_
    | split

omit [Binding rules] in
theorem isOperand_typedStep (noCalls : inNew → calls = false)
    (isOperand : IsOperand inNew access.tree) {next : Access ⊕ Tree}
    (read : typedStep rules within line calls access cursor = some (next, after)) :
    StepIsOperand inNew next := by
  unfold typedStep at read
  obtain ⟨types?, middle, found, read⟩ := bind_eq_some.mp read
  rcases attempt_eq_some found with ⟨rfl, _⟩ | ⟨types, rfl, isTypes⟩
  · cases read
    exact isOperand
  obtain ⟨_, before, _, isTypes⟩ := bind_eq_some.mp isTypes
  rw [bind_of_some (rfl : atBacktick before = some (_, before)),
    bind_of_some (atMark_apply "(" before)] at isTypes
  obtain ⟨_, _, required, same⟩ := bind_eq_some.mp isTypes
  obtain ⟨atCall, rfl⟩ := require_eq_some.mp required
  cases same
  rw [bind_of_some (rfl : atBacktick middle = some (_, middle))] at read
  split at read
  · obtain ⟨next, _, isTagged, same⟩ := bind_eq_some.mp read
    cases same
    exact isOperand_taggedStep isOperand _ (.refl middle) isTagged
  · rename_i noTemplate
    obtain ⟨_, _, _, same⟩ := bind_eq_some.mp read
    cases same
    refine ⟨Nat.le_refl 18, fun isNew => ?_⟩
    rw [noCalls isNew] at atCall
    simp [noTemplate] at atCall

omit [Binding rules] in
theorem isOperand_accessStep (noCalls : inNew → calls = false)
    (isOperand : IsOperand inNew access.tree) :
    (accessStep rules within line calls access).Gives start (StepIsOperand inNew) := by
  have tagged (types : Tree) : (do return .inl (← taggedStep rules within line access types) :
      Reader (Access ⊕ Tree)).Gives start (StepIsOperand inNew) :=
    .bind (isOperand_taggedStep isOperand types) fun _ isOperand => .pure isOperand
  have same : (pure (.inr access.tree) : Reader (Access ⊕ Tree)).Gives start
      (StepIsOperand inNew) := .pure isOperand
  have member (property : Tree) : (pure (.inl (access.member property)) :
      Reader (Access ⊕ Tree)).Gives start (StepIsOperand inNew) :=
    .pure ⟨Nat.le_refl 18, isOperand.2⟩
  unfold accessStep
  refine .last fun atBacktick => ?_
  split
  · exact tagged _
  refine .last fun mark => ?_
  split
  · exact .last fun _ => .last fun _ => member _
  · exact .last fun _ => member _
  · split
    · rename_i isCall
      refine .last fun arguments => .pure ⟨Nat.le_refl 18, fun isNew => ?_⟩
      rw [noCalls isNew] at isCall
      cases isCall
    · exact same
  · refine .bind (gives_require calls) fun _ isCall => ?_
    have noNew (isNew : inNew) : False := by
      rw [noCalls isNew] at isCall
      cases isCall
    exact .bind (isOperand_optionalStep noNew) fun _ isOperand => .pure isOperand
  · refine .last fun _ => ?_
    split
    · exact .last fun _ => .pure ⟨Nat.le_refl 18, isOperand.2⟩
    · exact same
  · split
    · exact fun _ _ _ _ read => isOperand_typedStep noCalls isOperand read
    · exact same
  · exact same

end Steps

theorem isOperand_access {calls : Bool} (noCalls : inNew → calls = false)
    (noImport : inNew → keywordOf? cursor.rest ≠ some "import")
    (read : access rules within calls cursor = some (tree, after)) : IsOperand inNew tree := by
  unfold access at read
  rw [bind_of_some (rfl : lineNumber cursor = some (cursor.line, cursor))] at read
  obtain ⟨first, middle, isFirst, read⟩ := bind_eq_some.mp read
  have isOperand : IsOperand inNew (Access.start first).tree := isOperand_primary noImport isFirst
  exact Gives.iterate (fun _ isOperand => isOperand_accessStep noCalls isOperand) isOperand
    (.refl middle) read

/-! Operations -/

theorem suits_postfixed : (postfixed rules within).Gives start (Goal.unary.Suits ·) := by
  unfold postfixed
  refine .bind (Binding.suits _ .operand _) fun operand tight => ?_
  have loose : Goal.unary.Suits operand := Nat.le_trans (by decide) tight
  repeat' first
    | exact .pure loose
    | exact .pure (by decide : 15 ≤ 16)
    | with_reducible refine .last fun _ => ?_
    | split

theorem suits_unary : (unary rules within).Gives start (Goal.unary.Suits ·) := by
  unfold unary
  repeat' first
    | exact .pure (Nat.le_refl 15)
    | exact suits_postfixed
    | with_reducible refine .last fun _ => ?_
    | split

omit [Binding rules] in
theorem gives_nextOperator? : (nextOperator? within).Gives start fun operator? =>
    ∀ operator ∈ operator?, 1 ≤ bindingStrength operator := by
  unfold nextOperator?
  refine .last fun token? => ?_
  split
  · exact .pure nofun
  split
  · exact .pure nofun
  · refine .pure fun operator found => ?_
    split at found
    · rename_i known
      cases found
      exact one_le_bindingStrength known
    · cases found

section Chains

variable {holds isType : Tree → Prop}

omit [Binding rules] in
theorem gives_operationStep (isOperand : (rules .unary within).Gives start fun tree =>
      15 ≤ tree.strength ∧ holds tree) (types : (rules .type within).Gives start isType)
    {done : List Operation} (suits : ∀ operation ∈ done, operation.Suits holds isType) :
    (operationStep rules within done).Gives start
      (Sum.elim (fun done => ∀ operation ∈ done, operation.Suits holds isType)
        (fun done => ∀ operation ∈ done, operation.Suits holds isType)) := by
  unfold operationStep
  refine .last fun word? => ?_
  split
  · exact .bind types fun type isType => .pure (List.forall_mem_cons.mpr ⟨isType, suits⟩)
  refine .bind gives_nextOperator? fun operator? known => ?_
  split
  · exact .pure fun operation member => suits operation (List.mem_reverse.mp member)
  · refine .last fun _ => .bind isOperand fun operand isOperand => .pure ?_
    exact List.forall_mem_cons.mpr ⟨⟨known _ rfl, isOperand⟩, suits⟩

omit [Binding rules] in
/-- What holds of the operands and is kept by operations holds of a chain of them. -/
theorem gives_binary (combines : Combines holds isType)
    (isOperand : (rules .unary within).Gives start fun tree => 15 ≤ tree.strength ∧ holds tree)
    (types : (rules .type within).Gives start isType) :
    (binary rules within).Gives start fun tree => holds tree ∧ 3 ≤ tree.strength := by
  unfold binary
  refine .bind isOperand fun first ⟨tight, holdsFirst⟩ => ?_
  refine .bind (.iterate (fun _ => gives_operationStep isOperand types) nofun) fun _ suits => ?_
  exact .ofOption fun tree combined => combine?_spec combines tight holdsFirst suits combined

end Chains

theorem suits_conditional : (conditional rules within).Gives start fun tree =>
    2 ≤ tree.strength := by
  have isOperand : (rules .unary within).Gives start fun tree => 15 ≤ tree.strength ∧ True :=
    (Binding.suits start .unary within).mono fun tree tight => ⟨tight, trivial⟩
  have combines : Combines (fun _ => True) fun _ => True :=
    ⟨fun _ _ _ _ _ _ => trivial, fun _ _ _ _ _ _ => trivial⟩
  unfold conditional
  refine .bind (gives_binary combines isOperand (.any _)) fun test ⟨_, tight⟩ => ?_
  repeat' first
    | exact .pure (Nat.le_of_succ_le tight)
    | exact .pure (Nat.le_refl 2)
    | with_reducible refine .last fun _ => ?_
    | split

/-! Assignments -/

omit [Binding rules] in
theorem suits_assignmentFrom {left : Tree} (tight : 1 ≤ left.strength) :
    (assignmentFrom rules within left).Gives start (Goal.assignment.Suits ·) := by
  unfold assignmentFrom
  repeat' first
    | exact .pure tight
    | exact .pure (Nat.le_refl 1)
    | with_reducible refine .last fun _ => ?_
    | split

omit [Binding rules] in
theorem suits_arrowFrom {isAsync : Bool} {types list result : Tree} :
    (arrowFrom rules within isAsync types list result).Gives start (Goal.assignment.Suits ·) := by
  unfold arrowFrom
  exact .last fun _ => .pure (Nat.le_refl 1)

omit [Binding rules] in
theorem suits_arrow? : (arrow? rules within).Gives start fun tree? =>
    ∀ tree ∈ tree?, Goal.assignment.Suits tree := by
  have found {isAsync : Bool} {types list result : Tree} :
      (do return some (← arrowFrom rules within isAsync types list result) :
        Reader (Option Tree)).Gives start fun tree? => ∀ tree ∈ tree?, Goal.assignment.Suits tree :=
    .bind suits_arrowFrom fun tree tight => .pure fun _ same => Option.some.inj same ▸ tight
  unfold arrow?
  repeat' first
    | exact .pure nofun
    | exact found
    | with_reducible refine .last fun _ => ?_
    | split

omit [Binding rules] in
theorem suits_yieldExpression :
    (yieldExpression rules within).Gives start (Goal.assignment.Suits ·) := by
  unfold yieldExpression
  repeat' first
    | exact .pure (Nat.le_refl 1)
    | with_reducible refine .last fun _ => ?_
    | split

theorem suits_assignment : (assignment rules within).Gives start (Goal.assignment.Suits ·) := by
  unfold assignment
  refine .last fun atYield => ?_
  split
  · exact suits_yieldExpression
  refine .bind suits_arrow? fun tree? tight => ?_
  split
  · exact .pure (tight _ rfl)
  · refine .bind suits_conditional fun left tight => ?_
    exact suits_assignmentFrom (Nat.le_of_succ_le tight)

/-! All rules -/

omit [Binding rules] in
theorem suits_element : (element rules within).Gives start (Goal.element.Suits ·) := by
  unfold element
  repeat' first
    | exact .pure (Nat.le_refl 19)
    | with_reducible refine .last fun _ => ?_
    | split

theorem suits_produce (goal : Goal) : (produce rules goal within).Gives start (goal.Suits ·) := by
  have isOperand (calls : Bool) : (access rules within calls).Gives start (18 ≤ ·.strength) := by
    intro cursor _ tree after read
    have operand : IsOperand False tree := isOperand_access nofun nofun read
    exact operand.1
  cases goal with
  | assignment => exact suits_assignment
  | unary => exact suits_unary
  | operand => exact isOperand true
  | callee => exact isOperand false
  | element => exact suits_element
  | _ => exact fun _ _ _ _ _ => trivial

instance binding_rulesOf (depth : Nat) : Binding (rulesOf depth) := by
  induction depth with
  | zero =>
    refine ⟨fun _ _ _ => .fail, fun within => ?_, fun _ _ _ _ read _ => by cases read⟩
    exact ⟨(opens_rulesOf within 0).1, (opens_rulesOf within 0).2.1⟩
  | succ depth ih =>
    refine ⟨fun _ goal _ => suits_produce goal, fun within => ?_, ?_⟩
    · exact ⟨(opens_rulesOf within (depth + 1)).1, (opens_rulesOf within (depth + 1)).2.1⟩
    · intro within cursor tree after read noImport
      exact (isOperand_access (fun _ => rfl) (fun _ => noImport) read).2 trivial

end Grammar

end CssInline.Code
