import CssInline.Proofs.Grammar.Expression

/-! Statements keep to their text. -/

namespace CssInline.Code.Grammar

open Placed

variable {start : Cursor} {rules : Rules} [Keeping rules] {within : Within}

omit [Keeping rules] in
@[simp] theorem keeps_withComments {reader : Reader Tree} (keeps : Keeps start reader) :
    Keeps start (withComments reader) := by
  unfold withComments
  repeat' first | with_reducible refine Keeps.bind ?_ fun _ _ => ?_ | split | simp_all

/-! Variables -/

@[simp] theorem keeps_declarator : Keeps start (declarator rules within) := by
  unfold declarator
  repeat' first | with_reducible refine Keeps.bind ?_ fun _ _ => ?_ | split | simp_all

@[simp] theorem keeps_declarators (keyword : String) :
    Keeps start (declarators rules within keyword) := by
  unfold declarators
  repeat' first | with_reducible refine Keeps.bind ?_ fun _ _ => ?_ | split | simp_all

@[simp] theorem keeps_variableStatement (keyword : String) :
    Keeps start (variableStatement rules within keyword) := by
  unfold variableStatement
  repeat' first | with_reducible refine Keeps.bind ?_ fun _ _ => ?_ | split | simp_all

/-! Simple statements -/

@[simp] theorem keeps_block : Keeps start (block rules within) := by
  unfold block
  repeat' first | with_reducible refine Keeps.bind ?_ fun _ _ => ?_ | split | simp_all

@[simp] theorem keeps_condition : Keeps start (condition rules within) := by
  unfold condition
  repeat' first | with_reducible refine Keeps.bind ?_ fun _ _ => ?_ | split | simp_all

/-- A statement that is an expression is placed where it is not taken for another one. -/
theorem isPlaced_expressionStatement {cursor after : Cursor} {tree : Tree}
    (opens : cursor.opening = .plain ∨ cursor.opening = .letBracket)
    (reached : start.Reaches cursor)
    (read : expressionStatement rules within cursor = some (tree, after)) :
    tree.IsPlaced start := by
  unfold expressionStatement at read
  obtain ⟨inner, _, isExpression, read⟩ := Reader.bind_eq_some.mp read
  obtain ⟨_, _, _, same⟩ := Reader.bind_eq_some.mp read
  cases same
  have placed : inner.IsPlaced start := keeps_rule reached isExpression
  rw [← (Binding.opens within).1 isExpression] at opens
  simp [placed, opens]

@[simp] theorem keeps_returnStatement : Keeps start (returnStatement rules within) := by
  unfold returnStatement
  repeat' first | with_reducible refine Keeps.bind ?_ fun _ _ => ?_ | split | simp_all

@[simp] theorem keeps_throwStatement : Keeps start (throwStatement rules within) := by
  unfold throwStatement
  repeat' first | with_reducible refine Keeps.bind ?_ fun _ _ => ?_ | split | simp_all

/-! Branches -/

@[simp] theorem keeps_ifStatement : Keeps start (ifStatement rules within) := by
  unfold ifStatement
  repeat' first | with_reducible refine Keeps.bind ?_ fun _ _ => ?_ | split | simp_all

@[simp] theorem keeps_caseClause : Keeps start (caseClause rules within) := by
  unfold caseClause
  repeat' first
    | with_reducible refine Keeps.bind ?_ fun _ _ => ?_
    | with_reducible refine Keeps.iterate (fun _ _ => ?_) ?_
    | split
    | simp_all

@[simp] theorem keeps_switchStatement : Keeps start (switchStatement rules within) := by
  unfold switchStatement
  repeat' first | with_reducible refine Keeps.bind ?_ fun _ _ => ?_ | split | simp_all

@[simp] theorem keeps_catchClause : Keeps start (catchClause rules within) := by
  unfold catchClause
  repeat' first | with_reducible refine Keeps.bind ?_ fun _ _ => ?_ | split | simp_all

@[simp] theorem keeps_tryStatement : Keeps start (tryStatement rules within) := by
  unfold tryStatement
  repeat' first | with_reducible refine Keeps.bind ?_ fun _ _ => ?_ | split | simp_all

/-! Loops -/

@[simp] theorem keeps_whileLoop : Keeps start (whileLoop rules within) := by
  unfold whileLoop
  repeat' first | with_reducible refine Keeps.bind ?_ fun _ _ => ?_ | split | simp_all

@[simp] theorem keeps_doWhile : Keeps start (doWhile rules within) := by
  unfold doWhile
  repeat' first | with_reducible refine Keeps.bind ?_ fun _ _ => ?_ | split | simp_all

@[simp] theorem keeps_loopHead : Keeps start (loopHead rules within) := by
  unfold loopHead
  repeat' first | with_reducible refine Keeps.bind ?_ fun _ _ => ?_ | split | simp_all

@[simp] theorem keeps_loopBody : Keeps start (loopBody rules within) := by
  unfold loopBody
  repeat' first | with_reducible refine Keeps.bind ?_ fun _ _ => ?_ | split | simp_all

omit [Keeping rules] in
@[simp] theorem isPlaced_loopTarget? {head : Tree} (placed : head.IsPlaced start) :
    isPlaced start (loopTarget? within head) := by
  unfold loopTarget?
  split
  · split <;> simp_all
  · exact isPlaced_none
  · exact isPlaced_target? placed within.strict

@[simp] theorem keeps_forOf {head : Tree} (placed : head.IsPlaced start) (isAwait : Bool) :
    Keeps start (forOf rules within isAwait head) := by
  unfold forOf
  repeat' first | with_reducible refine Keeps.bind ?_ fun _ _ => ?_ | split | simp_all

@[simp] theorem keeps_forIn {head : Tree} (placed : head.IsPlaced start) :
    Keeps start (forIn rules within head) := by
  unfold forIn
  repeat' first | with_reducible refine Keeps.bind ?_ fun _ _ => ?_ | split | simp_all

@[simp] theorem keeps_optionalUntil (closing : String) :
    Keeps start (optionalUntil rules within closing) := by
  unfold optionalUntil
  repeat' first | with_reducible refine Keeps.bind ?_ fun _ _ => ?_ | split | simp_all

@[simp] theorem keeps_forLoop {head : Tree} (placed : head.IsPlaced start) :
    Keeps start (forLoop rules within head) := by
  unfold forLoop
  repeat' first | with_reducible refine Keeps.bind ?_ fun _ _ => ?_ | split | simp_all

@[simp] theorem keeps_forStatement : Keeps start (forStatement rules within) := by
  unfold forStatement
  repeat' first | with_reducible refine Keeps.bind ?_ fun _ _ => ?_ | split | simp_all

/-! All statements -/

@[simp] theorem keeps_withStatement : Keeps start (withStatement rules within) := by
  unfold withStatement
  repeat' first | with_reducible refine Keeps.bind ?_ fun _ _ => ?_ | split | simp_all

@[simp] theorem keeps_labeled (label : String) : Keeps start (labeled rules within label) := by
  unfold labeled
  repeat' first | with_reducible refine Keeps.bind ?_ fun _ _ => ?_ | split | simp_all

@[simp] theorem keeps_emptyStatement : Keeps start emptyStatement := by
  unfold emptyStatement
  repeat' first | with_reducible refine Keeps.bind ?_ fun _ _ => ?_ | split | simp_all

@[simp] theorem keeps_debugger : Keeps start debugger := by
  unfold debugger
  repeat' first | with_reducible refine Keeps.bind ?_ fun _ _ => ?_ | split | simp_all

theorem keeps_keywordStatement? {word : String} {reader : Reader Tree}
    (found : keywordStatement? rules within word = some reader) : Keeps start reader := by
  unfold keywordStatement? at found
  split at found <;> cases found <;> simp

theorem isPlaced_labeledOrExpression {cursor after : Cursor} {tree : Tree}
    (opens : cursor.opening = .plain ∨ cursor.opening = .letBracket)
    (reached : start.Reaches cursor)
    (read : (do
      if let some label ← label? within then return ← labeled rules within label
      expressionStatement rules within : Reader Tree) cursor = some (tree, after)) :
    tree.IsPlaced start := by
  obtain ⟨label?, middle, found, read⟩ := Reader.bind_eq_some.mp read
  rcases Reader.attempt_eq_some found with ⟨rfl, same⟩ | ⟨label, rfl, _⟩
  · rw [same] at read
    exact isPlaced_expressionStatement opens reached read
  · exact keeps_labeled label (reached.trans (Reader.reaches _ found)) read

@[simp] theorem keeps_plainStatement : Keeps start (plainStatement rules within) := by
  intro cursor reached tree after read
  unfold plainStatement at read
  rw [Reader.bind_of_some (Reader.atMark_apply "\x7b" cursor)] at read
  split at read
  · exact keeps_block reached read
  rename_i noBlock
  rw [Reader.bind_of_some (Reader.atMark_apply ";" cursor)] at read
  split at read
  · exact keeps_emptyStatement reached read
  rename_i noSemicolon
  have opens (noKeyword : ∀ keyword, Reader.keywordOf? cursor.rest = some keyword →
      keyword ∉ "function" :: "class" :: statementWords ∧ cursor.atAsyncFunction = false) :
      cursor.opening = .plain ∨ cursor.opening = .letBracket := by
    rw [Cursor.opening_of_noStatement (mt beq_iff_eq.mpr noBlock) (mt beq_iff_eq.mpr noSemicolon)
      noKeyword]
    split
    · exact .inr rfl
    · exact .inl rfl
  rw [Reader.bind_of_some (Reader.keyword?_apply cursor)] at read
  split at read
  · rename_i keyword isKeyword
    split at read
    · exact keeps_keywordStatement? ‹_› reached read
    rename_i noStatement
    dsimp only at read
    rw [Reader.bind_of_some (atAsyncFunction_apply cursor)] at read
    obtain ⟨_, _, required, read⟩ := Reader.bind_eq_some.mp read
    obtain ⟨allowed, same⟩ := Reader.require_eq_some.mp required
    rw [same] at read
    refine isPlaced_labeledOrExpression (opens fun keyword' isKeyword' => ?_) reached read
    obtain rfl : keyword = keyword' := Option.some.inj (isKeyword.symm.trans isKeyword')
    have noDeclaration : (keyword ≠ "const" ∧ keyword ≠ "class" ∧ keyword ≠ "function") ∧
        cursor.atAsyncFunction = false := by simpa using allowed
    refine ⟨fun member => ?_, noDeclaration.2⟩
    simp only [List.mem_cons, noDeclaration.1, false_or] at member
    obtain ⟨reader, found⟩ := exists_keywordStatement member noDeclaration.1.1
    exact noStatement reader found
  · rename_i noKeyword
    exact isPlaced_labeledOrExpression (opens fun keyword isKeyword =>
      (noKeyword keyword isKeyword).elim) reached read

@[simp] theorem keeps_statement : Keeps start (statement rules within) := by
  unfold statement
  repeat' first | with_reducible refine Keeps.bind ?_ fun _ _ => ?_ | split | simp_all

end CssInline.Code.Grammar
