import CssInline.Proofs.Opening.Operand

/-! What an expression opens with: its first operand decides, unless an operator stands before
it. -/

namespace CssInline.Code

open Reader Grammar

namespace Grammar

variable {rules : Rules} {within : Within} {cursor after : Cursor} {tree : Tree}

/-! Operators -/

theorem opening_of_token {token : String} (isToken : tokenOf? cursor.rest = some token)
    (other : token ∉ "\x7b" :: ";" :: openingWords) : cursor.opening = .plain := by
  simp only [List.mem_cons, not_or] at other
  cases Option.or_eq_some_iff.mp isToken with
  | inl isMark => exact Cursor.opening_of_mark isMark other.1 other.2.1
  | inr isKeyword => exact Cursor.opening_of_otherKeyword isKeyword.2 other.2.2

theorem opening_of_prefix {tokens : List String} {token : String} (member : token ∈ tokens)
    (isToken : tokenOf? cursor.rest = some token)
    (others : ∀ token ∈ tokens, token ∉ "\x7b" :: ";" :: openingWords) {form : Form}
    {parts : List Tree} (own : form.isOwn = true) (plain : form.opening = .plain) :
    (Tree.node form parts).opening = cursor.opening := by
  rw [opening_of_token isToken (others token member), Tree.opening_of_own own, plain]

/-- The rules with which an expression starts, where they give what opens as the text does. -/
def Opens (rules : Rules) (within : Within) (goal : Goal) : Prop :=
  ∀ ⦃cursor tree after⦄, rules goal within cursor = some (tree, after) →
    tree.opening = cursor.opening

theorem opening_of_postfixed (operand : Opens rules within .operand)
    (read : postfixed rules within cursor = some (tree, after)) :
    tree.opening = cursor.opening := by
  unfold postfixed at read
  obtain ⟨first, middle, isFirst, read⟩ := bind_eq_some.mp read
  rw [← operand isFirst]
  rw [bind_of_some (rfl : afterBreak middle = some (_, middle))] at read
  split at read
  · cases read
    rfl
  obtain ⟨operator?, _, _, read⟩ := bind_eq_some.mp read
  split at read
  · cases read
    rfl
  · obtain ⟨_, _, _, same⟩ := bind_eq_some.mp read
    cases same
    exact Tree.opening_of_led rfl rfl

theorem opening_of_unary (operand : Opens rules within .operand)
    (read : unary rules within cursor = some (tree, after)) : tree.opening = cursor.opening := by
  unfold unary at read
  obtain ⟨_, _, accepted, read⟩ := bind_eq_some.mp read
  rcases acceptOneOf_eq_some accepted with ⟨rfl, same⟩ | ⟨token, member, rfl, isToken⟩
  case inr =>
    obtain ⟨_, _, _, read⟩ := bind_eq_some.mp read
    obtain ⟨_, _, _, same⟩ := bind_eq_some.mp read
    cases same
    exact opening_of_prefix member isToken (by decide) rfl rfl
  rw [same] at read
  obtain ⟨_, _, accepted, read⟩ := bind_eq_some.mp read
  rcases acceptOneOf_eq_some accepted with ⟨rfl, same⟩ | ⟨token, member, rfl, isToken⟩
  case inr =>
    obtain ⟨_, _, _, read⟩ := bind_eq_some.mp read
    obtain ⟨_, _, _, same⟩ := bind_eq_some.mp read
    cases same
    exact opening_of_prefix member isToken (by decide) rfl rfl
  rw [same] at read
  obtain ⟨awaits, middle, accepted, read⟩ := bind_eq_some.mp read
  have isAwait : awaits = false ∧ middle = cursor ∨
      awaits = true ∧ keywordOf? cursor.rest = some "await" := by
    cases onlyIf_eq_some accepted with
    | inl nothing => exact .inl nothing
    | inr accepted => exact acceptWord_eq_some accepted
  rcases isAwait with ⟨rfl, same⟩ | ⟨rfl, isKeyword⟩
  case inr =>
    obtain ⟨_, _, _, same⟩ := bind_eq_some.mp read
    cases same
    exact (Cursor.opening_of_otherKeyword isKeyword (by decide)).symm
  rw [same] at read
  obtain ⟨asserts, middle, accepted, read⟩ := bind_eq_some.mp read
  have isAssertion : asserts = false ∧ middle = cursor ∨
      asserts = true ∧ markOf? cursor.rest = some "<" := by
    cases onlyIf_eq_some accepted with
    | inl nothing => exact .inl nothing
    | inr accepted => exact accept_eq_some accepted
  rcases isAssertion with ⟨rfl, same⟩ | ⟨rfl, isMark⟩
  case inr =>
    obtain ⟨_, _, _, read⟩ := bind_eq_some.mp read
    obtain ⟨_, _, _, read⟩ := bind_eq_some.mp read
    obtain ⟨_, _, _, same⟩ := bind_eq_some.mp read
    cases same
    exact (Cursor.opening_of_mark isMark (by decide) (by decide)).symm
  rw [same] at read
  exact opening_of_postfixed operand read

/-! Several operands -/

/-- The first of all operands that an operation waits for, or the last one if none waits. -/
def firstOperand (pending : List (Tree × String)) (last : Tree) : Tree :=
  (pending.getLast?.map Prod.fst).getD last

theorem opening_of_binaryNode? {operator : String} {left right combined : Tree}
    (same : binaryNode? operator left right = some combined) :
    combined.opening = left.opening := by
  unfold binaryNode? at same
  split at same
  · cases same
  · cases same
    exact Tree.opening_of_led rfl rfl

theorem opening_of_complete? {binds : Nat → Bool} {pending pending' : List (Tree × String)}
    {right right' : Tree} (completed : complete? binds pending right = some (pending', right')) :
    (firstOperand pending' right').opening = (firstOperand pending right).opening := by
  induction pending generalizing right with
  | nil =>
    cases completed
    rfl
  | cons first pending ih =>
    obtain ⟨left, operator⟩ := first
    unfold complete? at completed
    split at completed
    · obtain ⟨combined, isNode, completed⟩ := Option.bind_eq_some_iff.mp completed
      rw [ih completed]
      cases pending with
      | nil => exact opening_of_binaryNode? isNode
      | cons second pending => rfl
    · cases completed
      rfl

theorem complete?_all {pending pending' : List (Tree × String)} {right right' : Tree}
    (completed : complete? (fun _ => true) pending right = some (pending', right')) :
    pending' = [] := by
  induction pending generalizing right with
  | nil =>
    cases completed
    rfl
  | cons first pending ih =>
    obtain ⟨combined, _, completed⟩ := Option.bind_eq_some_iff.mp completed
    exact ih completed

@[simp] theorem firstOperand_cons (left : Tree) (operator : String)
    (pending : List (Tree × String)) (last : Tree) :
    firstOperand ((left, operator) :: pending) last = firstOperand pending left := by
  unfold firstOperand
  rw [List.getLast?_cons, Option.map_some, Option.getD_some]
  cases pending.getLast? <;> rfl

theorem opening_of_firstOperand {pending : List (Tree × String)} {last last' : Tree}
    (same : last.opening = last'.opening) :
    (firstOperand pending last).opening = (firstOperand pending last').opening := by
  cases pending with
  | nil => exact same
  | cons first pending =>
    obtain ⟨left, operator⟩ := first
    rw [firstOperand_cons, firstOperand_cons]

theorem opening_of_combineFrom? {pending : List (Tree × String)} {last : Tree}
    {operations : List Operation} (combined : combineFrom? pending last operations = some tree) :
    tree.opening = (firstOperand pending last).opening := by
  induction operations generalizing pending last with
  | nil =>
    obtain ⟨⟨pending', _⟩, completed, rfl⟩ := Option.map_eq_some_iff.mp combined
    rw [← opening_of_complete? completed, complete?_all completed]
    rfl
  | cons operation operations ih =>
    cases operation with
    | binary operator operand =>
      obtain ⟨⟨pending', left⟩, completed, combined⟩ := Option.bind_eq_some_iff.mp combined
      rw [ih combined, ← opening_of_complete? completed, firstOperand_cons]
    | cast operator type =>
      obtain ⟨⟨pending', left⟩, completed, combined⟩ := Option.bind_eq_some_iff.mp combined
      rw [ih combined, ← opening_of_complete? completed]
      exact opening_of_firstOperand (Tree.opening_of_led rfl rfl)

theorem opening_of_binary (unary : Opens rules within .unary)
    (read : binary rules within cursor = some (tree, after)) : tree.opening = cursor.opening := by
  unfold binary at read
  obtain ⟨first, _, isFirst, read⟩ := bind_eq_some.mp read
  obtain ⟨operations, _, _, read⟩ := bind_eq_some.mp read
  rw [← unary isFirst]
  unfold ofOption at read
  split at read
  · rename_i combined
    cases read
    exact opening_of_combineFrom? combined
  · cases read

theorem opening_of_conditional (unary : Opens rules within .unary)
    (read : conditional rules within cursor = some (tree, after)) :
    tree.opening = cursor.opening := by
  unfold conditional at read
  obtain ⟨test, _, isTest, read⟩ := bind_eq_some.mp read
  rw [← opening_of_binary unary isTest]
  obtain ⟨_, _, _, read⟩ := bind_eq_some.mp read
  split at read
  · cases read
    rfl
  · obtain ⟨_, _, _, read⟩ := bind_eq_some.mp read
    obtain ⟨_, _, _, read⟩ := bind_eq_some.mp read
    obtain ⟨_, _, _, same⟩ := bind_eq_some.mp read
    cases same
    exact Tree.opening_of_led rfl rfl

/-! Assignments -/

theorem opening_of_simpleTarget? {strict : Bool} {target : Tree}
    (isTarget : simpleTarget? strict tree = some target) : target.opening = tree.opening := by
  unfold simpleTarget? at isTarget
  split at isTarget
  · split at isTarget
    · cases isTarget
      exact (Tree.opening_of_own (rfl : (Form.name _).isOwn = true) _).symm
    · cases isTarget
      rfl
  · cases isTarget

theorem opening_of_target? {strict : Bool} {target : Tree}
    (isTarget : target? strict tree = some target) : target.opening = tree.opening := by
  unfold target? at isTarget
  split at isTarget
  · obtain ⟨_, _, rfl⟩ := Option.map_eq_some_iff.mp isTarget
    rw [Tree.opening_of_own rfl, Tree.opening_of_own rfl]
    rfl
  · obtain ⟨_, _, rfl⟩ := Option.map_eq_some_iff.mp isTarget
    rw [Tree.opening_of_own rfl, Tree.opening_of_own rfl]
    rfl
  · exact opening_of_simpleTarget? isTarget

theorem opening_of_assignmentFrom {left : Tree}
    (read : assignmentFrom rules within left cursor = some (tree, after)) :
    tree.opening = left.opening := by
  unfold assignmentFrom at read
  rw [bind_of_some (atMark_apply "=" cursor)] at read
  split at read
  · obtain ⟨target, _, isTarget, read⟩ := bind_eq_some.mp read
    obtain ⟨_, _, _, read⟩ := bind_eq_some.mp read
    obtain ⟨_, _, _, same⟩ := bind_eq_some.mp read
    cases same
    exact (Tree.opening_of_led rfl rfl).trans (opening_of_target? (ofOption_eq_some isTarget))
  obtain ⟨_, _, _, read⟩ := bind_eq_some.mp read
  split at read
  · cases read
    rfl
  · obtain ⟨target, _, isTarget, read⟩ := bind_eq_some.mp read
    obtain ⟨_, _, _, same⟩ := bind_eq_some.mp read
    cases same
    exact (Tree.opening_of_led rfl rfl).trans
      (opening_of_simpleTarget? (ofOption_eq_some isTarget))

theorem atAsyncFunction_eq_false {word : Word} {next : Cursor}
    (isWord : anyWord cursor = some (word, next))
    (noFunction : keywordOf? next.rest ≠ some "function") : cursor.atAsyncFunction = false := by
  rw [← Bool.not_eq_true]
  intro isAsync
  obtain ⟨_, read⟩ := Option.isSome_iff_exists.mp isAsync
  obtain ⟨_, next', isAsync, read⟩ := bind_eq_some.mp read
  obtain ⟨isKeyword, passed⟩ := expectWord_eq_some.mp isAsync
  obtain ⟨word', isWord', _, size⟩ := size_of_keywordOf? isKeyword
  obtain ⟨isWord, passed'⟩ := anyWord_eq_some.mp isWord
  rw [isWord'] at isWord
  cases isWord
  rw [size, passed] at passed'
  cases passed'
  rw [bind_of_some (rfl : afterBreak next = some (_, next))] at read
  obtain ⟨_, _, required, last⟩ := bind_eq_some.mp read
  obtain ⟨_, rfl⟩ := require_eq_some.mp required
  exact noFunction (expectWord_eq_some.mp last).1

theorem mark_of_arrowMark {value : Unit} (read : arrowMark cursor = some (value, after)) :
    markOf? cursor.rest = some "=>" := by
  unfold arrowMark at read
  rw [bind_of_some (rfl : afterBreak cursor = some (_, cursor))] at read
  obtain ⟨_, _, required, last⟩ := bind_eq_some.mp read
  obtain ⟨_, rfl⟩ := require_eq_some.mp required
  exact (expect_eq_some.mp last).1

/-- The parameters of an arrow function. -/
theorem variableTree_of_bareArrowHead {head : Tree × Tree × Tree}
    (read : bareArrowHead within cursor = some (head, after)) :
    ∃ name next, variableTree within cursor = some (name, next) ∧
      markOf? next.rest = some "=>" := by
  unfold bareArrowHead at read
  obtain ⟨id, _, declared, read⟩ := bind_eq_some.mp read
  obtain ⟨_, _, isMark, _⟩ := bind_eq_some.mp read
  unfold declaredName at declared
  obtain ⟨id', next, named, declared⟩ := bind_eq_some.mp declared
  obtain ⟨_, _, required, same⟩ := bind_eq_some.mp declared
  obtain ⟨_, rfl⟩ := require_eq_some.mp required
  cases same
  refine ⟨.name id, _, ?_, mark_of_arrowMark isMark⟩
  unfold variableTree
  rw [bind_of_some named]
  rfl

theorem exists_word_of_variableTree (read : variableTree within cursor = some (tree, after)) :
    ∃ word, tree = .name word.text ∧ anyWord cursor = some (word, after) ∧
      isVariableName within word.text = true := by
  obtain ⟨id, _, named, same⟩ := bind_eq_some.mp read
  cases same
  obtain ⟨word, isWord, rfl, isName⟩ := variableName_eq_some.mp named
  exact ⟨word, rfl, isWord, isName⟩

theorem opening_of_bareArrowHead {head : Tree × Tree × Tree}
    (read : bareArrowHead within cursor = some (head, after)) : cursor.opening = .plain := by
  obtain ⟨name, next, isName, isMark⟩ := variableTree_of_bareArrowHead read
  obtain ⟨word, rfl, isWord, _⟩ := exists_word_of_variableTree isName
  have noFunction := atAsyncFunction_eq_false isWord (by rw [keywordOf?_of_mark isMark]; nofun)
  rw [← opening_of_variableTree isName noFunction, openingBefore, if_neg]
  · rfl
  · rw [isMark]
    exact fun both => absurd both.2 (by decide)

theorem atTypeParameters_eq_some {found : Bool}
    (read : atTypeParameters within cursor = some (found, after)) :
    after = cursor ∧ (found = true → markOf? cursor.rest = some "<") := by
  unfold atTypeParameters at read
  rw [bind_of_some (atMark_apply "<" cursor)] at read
  split at read
  · cases read
    exact ⟨rfl, nofun⟩
  · rename_i isMark
    simp only [Bool.or_eq_true, Bool.not_eq_true', not_or, Bool.not_eq_false, beq_iff_eq] at isMark
    split at read
    · cases read
      exact ⟨rfl, fun _ => isMark.2⟩
    · cases read
      exact ⟨rfl, fun _ => isMark.2⟩

/-- The head of an arrow function starts with a mark or is a name before the arrow. -/
theorem eq_bareArrowHead {asyncParameters : Bool} {inside : Within} {head : Tree × Tree × Tree}
    (read : (do
      if (← atMark "(") || (← atTypeParameters within) then arrowHead rules within asyncParameters
      else bareArrowHead inside) cursor = some (head, after)) :
    (∃ mark, markOf? cursor.rest = some mark ∧ (mark = "(" ∨ mark = "<")) ∨
      bareArrowHead inside cursor = some (head, after) := by
  rw [bind_of_some (atMark_apply "(" cursor)] at read
  obtain ⟨found, _, types, read⟩ := bind_eq_some.mp read
  obtain ⟨rfl, isTypes⟩ := atTypeParameters_eq_some types
  split at read
  · rename_i isMark
    rw [Bool.or_eq_true, beq_iff_eq] at isMark
    cases isMark with
    | inl isParen => exact .inl ⟨_, isParen, .inl rfl⟩
    | inr found => exact .inl ⟨_, isTypes found, .inr rfl⟩
  · exact .inr read

theorem opening_of_arrowFrom {isAsync : Bool} {types list result : Tree}
    (read : arrowFrom rules within isAsync types list result cursor = some (tree, after)) :
    tree.opening = .plain := by
  unfold arrowFrom at read
  obtain ⟨_, _, _, same⟩ := bind_eq_some.mp read
  cases same
  exact Tree.opening_of_own rfl _

/-- What an arrow function opens with, if a head of one is read where it starts. -/
theorem opening_of_arrowStart {head : Tree × Tree × Tree}
    (read : (do
      if (← atMark "(") || (← atTypeParameters within) then arrowHead rules within false
      else bareArrowHead within) cursor = some (head, after)) : cursor.opening = .plain := by
  rcases eq_bareArrowHead read with ⟨mark, isMark, rfl | rfl⟩ | isName
  · exact Cursor.opening_of_mark isMark (by decide) (by decide)
  · exact Cursor.opening_of_mark isMark (by decide) (by decide)
  · exact opening_of_bareArrowHead isName

theorem anyWord_of_asyncMark {value : Unit} (read : asyncMark cursor = some (value, after)) :
    keywordOf? cursor.rest = some "async" ∧ ∃ word, anyWord cursor = some (word, after) := by
  unfold asyncMark at read
  obtain ⟨_, before, isAsync, required⟩ := bind_eq_some.mp read
  rw [bind_of_some (rfl : afterBreak before = some (_, before))] at required
  obtain ⟨_, rfl⟩ := require_eq_some.mp required
  obtain ⟨word, isWord, _⟩ := anyWord_of_expectWord isAsync
  exact ⟨(expectWord_eq_some.mp isAsync).1, word, isWord⟩

theorem opening_of_asyncArrowStart {inside : Within} {head : Tree × Tree × Tree}
    (read : (do
      asyncMark
      if (← atMark "(") || (← atTypeParameters within) then arrowHead rules within true
      else bareArrowHead inside) cursor = some (head, after)) : cursor.opening = .plain := by
  obtain ⟨_, next, isMark, read⟩ := bind_eq_some.mp read
  obtain ⟨isKeyword, word, isWord⟩ := anyWord_of_asyncMark isMark
  have noFunction : keywordOf? next.rest ≠ some "function" := by
    rcases eq_bareArrowHead read with ⟨mark, isMark, _⟩ | isName
    · rw [keywordOf?_of_mark isMark]
      nofun
    · intro isFunction
      obtain ⟨name, _, isName, _⟩ := variableTree_of_bareArrowHead isName
      obtain ⟨word', _, isWord', isVariable⟩ := exists_word_of_variableTree isName
      obtain ⟨word'', isWord'', same⟩ := Cursor.wordOf?_of_keyword isFunction
      rw [(anyWord_eq_some.mp isWord').1] at isWord''
      cases isWord''
      rw [same] at isVariable
      exact absurd isVariable (by simp [isVariableName, reservedWords])
  have noAsync := atAsyncFunction_eq_false isWord noFunction
  rw [Cursor.opening_of_keyword isKeyword, noAsync,
    Cursor.atLetBracket_eq_false_of_keyword isKeyword (by decide)]
  rfl

theorem opening_of_arrow? {found? : Option Tree}
    (read : arrow? rules within cursor = some (found?, after)) :
    found? = none ∧ after = cursor ∨
      ∃ arrow, found? = some arrow ∧ arrow.opening = cursor.opening := by
  unfold arrow? at read
  obtain ⟨_, _, attempted, read⟩ := bind_eq_some.mp read
  rcases attempt_eq_some attempted with ⟨rfl, same⟩ | ⟨⟨types, list, result⟩, rfl, isHead⟩
  case inr =>
    obtain ⟨arrow, _, isArrow, same⟩ := bind_eq_some.mp read
    cases same
    exact .inr ⟨arrow, rfl, by
      rw [opening_of_arrowFrom isArrow, opening_of_arrowStart isHead]⟩
  rw [same] at read
  dsimp only at read
  rw [bind_of_some (atWord_apply "async" cursor)] at read
  split at read
  · cases read
    exact .inl ⟨rfl, rfl⟩
  obtain ⟨_, _, attempted, read⟩ := bind_eq_some.mp read
  rcases attempt_eq_some attempted with ⟨rfl, same⟩ | ⟨⟨types, list, result⟩, rfl, isHead⟩
  case inr =>
    obtain ⟨arrow, _, isArrow, same⟩ := bind_eq_some.mp read
    cases same
    exact .inr ⟨arrow, rfl, by
      rw [opening_of_arrowFrom isArrow, opening_of_asyncArrowStart isHead]⟩
  cases read
  exact .inl ⟨rfl, same⟩

theorem opening_of_assignment (unary : Opens rules within .unary)
    (read : assignment rules within cursor = some (tree, after)) :
    tree.opening = cursor.opening := by
  unfold assignment at read
  rw [bind_of_some (atWord_apply "yield" cursor)] at read
  split at read
  · unfold yieldExpression at read
    obtain ⟨_, _, isYield, read⟩ := bind_eq_some.mp read
    rw [Cursor.opening_of_otherKeyword (expectWord_eq_some.mp isYield).1 (by decide)]
    obtain ⟨_, _, _, read⟩ := bind_eq_some.mp read
    split at read
    · cases read
      rfl
    · obtain ⟨_, _, _, read⟩ := bind_eq_some.mp read
      obtain ⟨_, _, _, same⟩ := bind_eq_some.mp read
      cases same
      rfl
  obtain ⟨_, _, isArrow, read⟩ := bind_eq_some.mp read
  rcases opening_of_arrow? isArrow with ⟨rfl, same⟩ | ⟨arrow, rfl, opens⟩
  case inr =>
    cases read
    exact opens
  rw [same] at read
  dsimp only at read
  obtain ⟨left, _, isLeft, read⟩ := bind_eq_some.mp read
  rw [opening_of_assignmentFrom read, opening_of_conditional unary isLeft]

def EndsIn (first : Tree) (done : List Tree) : Prop :=
  ∃ later, done = later ++ [first]

/-- The first of the items, and where it stands. -/
theorem exists_first_of_separated {mark : String} {item : Reader Tree} {trees : List Tree}
    (read : separated mark item cursor = some (trees, after)) :
    ∃ first rest next, trees = first :: rest ∧ item cursor = some (first, next) := by
  unfold separated at read
  cases iterate_eq_some read with
  | inl done =>
    obtain ⟨first, next, isFirst, read⟩ := bind_eq_some.mp done
    obtain ⟨_, _, _, read⟩ := bind_eq_some.mp read
    split at read
    · cases read
    · cases read
      exact ⟨first, [], next, rfl, isFirst⟩
  | inr more =>
    obtain ⟨state, middle, fuel, step, read⟩ := more
    obtain ⟨first, next, isFirst, step⟩ := bind_eq_some.mp step
    obtain ⟨_, _, _, step⟩ := bind_eq_some.mp step
    have begins : EndsIn first state := by
      split at step
      · cases step
        exact ⟨[], rfl⟩
      · cases step
    have keeps : ∃ rest, trees = first :: rest := by
      refine (?_ : Gives middle _ fun trees : List Tree => ∃ rest, trees = first :: rest)
        (Cursor.Reaches.refl _) read
      refine .iterateFrom ?_ fuel begins
      rintro _ ⟨later, rfl⟩
      refine .last fun tree => .last fun accepted => ?_
      split
      · exact .pure ⟨tree :: later, rfl⟩
      · exact .pure ⟨later.reverse ++ [tree], by simp⟩
    obtain ⟨rest, rfl⟩ := keeps
    exact ⟨first, rest, next, rfl, isFirst⟩

theorem opening_of_expression (assignment : Opens rules within .assignment)
    (read : expression rules within cursor = some (tree, after)) :
    tree.opening = cursor.opening := by
  unfold expression at read
  obtain ⟨trees, _, separated, read⟩ := bind_eq_some.mp read
  obtain ⟨first, rest, _, rfl, isFirst⟩ := exists_first_of_separated separated
  rw [← assignment isFirst]
  split at read
  · rename_i same
    cases read
    rw [(List.cons.inj same).1]
  · cases read
    exact Tree.opening_of_led rfl rfl

theorem gives_elementRule (depth : Nat) (within : Within) :
    (rulesOf depth .element within).Gives cursor (OpensWith .plain) := by
  cases depth with
  | zero => exact .fail
  | succ depth => exact gives_element

/-- Whatever is read for an expression opens as the text does from which it is read. -/
theorem opens_rulesOf (within : Within) (depth : Nat) :
    Opens (rulesOf depth) within .expression ∧ Opens (rulesOf depth) within .assignment ∧
      Opens (rulesOf depth) within .unary ∧ Opens (rulesOf depth) within .operand := by
  induction depth with
  | zero => exact ⟨nofun, nofun, nofun, nofun⟩
  | succ depth ih =>
    obtain ⟨_, assignment, unary, operand⟩ := ih
    exact ⟨fun _ _ _ read => opening_of_expression assignment read,
      fun _ _ _ read => opening_of_assignment unary read,
      fun _ _ _ read => opening_of_unary operand read,
      fun _ _ _ read => opening_of_access (gives_elementRule depth) read⟩

end Grammar

end CssInline.Code
