import CssInline.Proofs.Enclosed.Group

/-! Which texts are accepted as an expression: those that are one expression on their own. The
parentheses that are put around a text neither let more texts pass nor fewer. -/

namespace CssInline.Code

open Reader Grammar

/-- The expression that a text is on its own, from its first token to its end. The first line of
the text has the number `line`; only tagged templates keep the number of theirs, until they are
`unplaced`. A shorthand property with a value is read as part of what may become a pattern, so a
complete expression has none left. -/
def readExpression (line : Nat) (text : List Char) : Option Tree :=
  let reader : Reader Tree := do
    settle
    let tree ← rulesOf (depthFor text) .expression scriptWithin
    require (← atEnd)
    return tree
  ((reader ⟨text, line, true, []⟩).map Prod.fst).filter fun tree => !tree.any Form.isInitialized

variable {text : List Char} {tree : Tree} {cursor after : Cursor}

theorem readExpression_eq_some {line : Nat} : readExpression line text = some tree ↔
    ∃ cursor after, settle ⟨text, line, true, []⟩ = some ((), cursor) ∧
      rulesOf (depthFor text) .expression scriptWithin cursor = some (tree, after) ∧
        after.rest = [] ∧ tree.any Form.isInitialized = false := by
  unfold readExpression
  rw [Option.filter_eq_some_iff, Option.map_eq_some_iff]
  constructor
  · rintro ⟨⟨⟨tree, last⟩, read, rfl⟩, complete⟩
    obtain ⟨_, cursor, settled, read⟩ := bind_eq_some.mp read
    obtain ⟨_, after, isExpression, read⟩ := bind_eq_some.mp read
    rw [bind_of_some (rfl : atEnd after = some (after.rest.isEmpty, after))] at read
    obtain ⟨_, _, required, same⟩ := bind_eq_some.mp read
    cases same
    have ended := List.isEmpty_iff.mp (require_eq_some.mp required).1
    exact ⟨cursor, after, settled, isExpression, ended, by simpa using complete⟩
  · rintro ⟨cursor, after, settled, isExpression, ended, complete⟩
    refine ⟨⟨(tree, after), ?_, rfl⟩, by simpa using complete⟩
    rw [bind_of_some settled, bind_of_some isExpression,
      bind_of_some (rfl : atEnd after = some (after.rest.isEmpty, after)), ended]
    rfl

theorem deep_of_settle {line depth : Nat} (enough : depthFor text ≤ depth)
    (settled : settle ⟨text, line, true, []⟩ = some ((), cursor)) : Deep depth cursor := by
  have shorter : cursor.rest.length ≤ text.length := length_le settled
  unfold depthFor at enough
  unfold Deep
  omega

/-- What is read to the end of the text is read to its end by deeper rules as well. -/
theorem exists_ended_of_deep {depth depth' : Nat} (deep : Deep depth cursor)
    (deep' : Deep depth' cursor)
    (read : rulesOf depth .expression scriptWithin cursor = some (tree, after))
    (ended : after.rest = []) :
    ∃ after', rulesOf depth' .expression scriptWithin cursor = some (tree, after') ∧
      after'.rest = [] := by
  obtain ⟨after', read', same⟩ := exists_of_deep (fun rules => rules .expression scriptWithin)
    (fun _ _ _ _ => agree_rule) deep deep' read
  refine ⟨after', read', ?_⟩
  by_contra inside
  rw [← Cursor.eq_of_enclosed_eq inside same.symm] at inside
  exact inside ended

/-- The depth of the rules is no limit to what an expression is. -/
theorem readExpression_eq_some_of_deep {line depth : Nat} (enough : depthFor text ≤ depth) :
    readExpression line text = some tree ↔
      ∃ cursor after, settle ⟨text, line, true, []⟩ = some ((), cursor) ∧
        rulesOf depth .expression scriptWithin cursor = some (tree, after) ∧
          after.rest = [] ∧ tree.any Form.isInitialized = false := by
  rw [readExpression_eq_some]
  constructor
  · rintro ⟨cursor, after, settled, read, ended, complete⟩
    obtain ⟨after', read', ended'⟩ := exists_ended_of_deep (deep_of_settle (Nat.le_refl _) settled)
      (deep_of_settle enough settled) read ended
    exact ⟨cursor, after', settled, read', ended', complete⟩
  · rintro ⟨cursor, after, settled, read, ended, complete⟩
    obtain ⟨after', read', ended'⟩ := exists_ended_of_deep (deep_of_settle enough settled)
      (deep_of_settle (Nat.le_refl _) settled) read ended
    exact ⟨cursor, after', settled, read', ended', complete⟩

/-! The text in parentheses -/

theorem bracketed_scriptWithin : scriptWithin.bracketed = scriptWithin := rfl

/-- Before the opening parenthesis. -/
def wrapperStart (text : List Char) : Cursor :=
  Cursor.start ('(' :: '\n' :: (text ++ closing))

theorem settle_wrapperStart (text : List Char) :
    settle (wrapperStart text) = some ((), wrapperStart text) := rfl

/-- After the opening parenthesis the text is read from its first token on. -/
theorem expect_wrapperStart (text : List Char) : expect "(" (wrapperStart text) =
    (settle ⟨text, 2, true, []⟩).map fun (_, cursor) => ((), cursor.enclosed) := by
  have opens : expect "(" (wrapperStart text) =
      (Cursor.extended ⟨text, 2, true, []⟩).settle?.map fun cursor => ((), cursor) := by
    have isMark : markOf? (wrapperStart text).rest = some "(" := rfl
    have passed : pass 1 (wrapperStart text) =
        (Cursor.extended ⟨text, 2, true, []⟩).settle?.map fun cursor => ((), cursor) := rfl
    unfold expect
    rw [bind_apply, accept_apply, if_pos isMark]
    change Option.bind (Option.map _ (pass 1 (wrapperStart text))) _ = _
    rw [passed]
    cases (Cursor.extended ⟨text, 2, true, []⟩).settle? <;> rfl
  rw [opens, Cursor.settle?_extended]
  change _ = (Option.map _ _).map _
  rw [Option.map_map, Option.map_map]
  rfl

/-- After the text its closing parenthesis is the last token. -/
theorem expect_enclosed_of_ended (ended : cursor.rest = []) :
    expect ")" cursor.enclosed = some ((), ⟨[], cursor.line + 1, false, []⟩) := by
  rw [Cursor.enclosed_of_ended ended]
  rfl

/-- What ends a statement after a parenthesis inside of the text is not the end. -/
theorem inside_of_semicolon {last : Cursor} {value : Unit} (inside : cursor.rest ≠ [])
    (read : (expect ")" >>= fun _ => semicolon) cursor.enclosed = some (value, last)) :
    last.rest ≠ [] := by
  have meets : Meets False ((expect ")" >>= fun _ => semicolon) cursor)
      ((expect ")" >>= fun _ => semicolon) cursor.enclosed) := by
    have required (after : Cursor) (accepted : Bool) : Agree (16 * after.rest.length) False 0
      (require accepted) (require accepted) := agree_require accepted
    have ends (after : Cursor) : Agree (16 * after.rest.length) False 0 semicolon semicolon :=
      agree_semicolon
    refine Meets.bind (Meets.bind (meets_accept_inside inside) fun accepted after _ => ?_)
      fun _ after _ => ?_
    · exact required after accepted after (Nat.le_refl _)
    · exact ends after after (Nat.le_refl _)
  rw [read] at meets
  generalize (expect ")" >>= fun _ => semicolon) cursor = found at meets
  cases meets with
  | read _ after => exact after.rest_enclosed_ne_nil
  | closed may => exact may.elim

/-! Texts that are accepted -/

theorem enclosed_eq (source : String) : Cursor.start (enclosed source) =
    wrapperStart source.toList := rfl

theorem depthFor_enclosed (source : String) :
    depthFor (enclosed source) = depthFor source.toList + 60 + 4 := by
  simp only [depthFor, enclosed, List.length_append, List.length_cons, List.length_nil]
  omega

theorem exists_tree_of_readScript {source : String} {inner : Tree}
    (read : (readScript (enclosed source)).map Tree.unplacedAll = some [inner.paren.statement]) :
    ∃ tree, readExpression 2 source.toList = some tree ∧ tree.unplaced = inner := by
  obtain ⟨item, found, same⟩ :=
    map_unplacedAll_eq_singleton.mp (readExpressions_of_readScript read).1
  obtain ⟨start, last, settled, _, whole, ended, complete⟩ := itemsOf_eq_singleton.mp found
  rw [enclosed_eq, settle_wrapperStart] at settled
  cases settled
  obtain ⟨statement, isStatement, rfl⟩ := withComments_eq_some.mp whole
  obtain ⟨group, middle, isGroup, isStatement⟩ := bind_eq_some.mp isStatement
  obtain ⟨_, _, ends, same'⟩ := bind_eq_some.mp isStatement
  cases same'
  have sameGroup : group.unplaced = inner.paren := (List.cons.inj (Tree.node.inj same).2).1
  rw [depthFor_enclosed] at isGroup
  have parens := parenthesized_of_isGroup rfl (congrArg Tree.form sameGroup) isGroup
  obtain ⟨_, first, opens, parens⟩ := bind_eq_some.mp parens
  obtain ⟨tree, after, isTree, parens⟩ := bind_eq_some.mp parens
  obtain ⟨_, _, closes, same'⟩ := bind_eq_some.mp parens
  cases same'
  have sameTree : tree.unplaced = inner := (List.cons.inj (Tree.node.inj sameGroup).2).1
  rw [expect_wrapperStart] at opens
  obtain ⟨⟨_, cursor⟩, settled, same'⟩ := Option.map_eq_some_iff.mp opens
  cases same'
  -- Inside the parentheses the text is read as it is read on its own, only with more depth.
  have enough : depthFor source.toList ≤ depthFor source.toList + 60 := Nat.le_add_right _ _
  have deep := deep_of_settle enough settled
  have := deep.agreeing deep
  have agree : Agree (16 * cursor.rest.length + 16) True 16
    (rulesOf (depthFor source.toList + 60) .expression scriptWithin)
    (rulesOf (depthFor source.toList + 60) .expression scriptWithin) := agree_rule
  have meets := agree cursor (Nat.le_refl _)
  rw [bracketed_scriptWithin] at isTree
  rw [isTree] at meets
  generalize own : rulesOf (depthFor source.toList + 60) .expression scriptWithin cursor = found
    at meets
  cases meets with
  | read _ after =>
    refine ⟨tree, (readExpression_eq_some_of_deep enough).mpr
      ⟨cursor, after, settled, own, ?_, ?_⟩, sameTree⟩
    · by_contra inside
      exact inside_of_semicolon inside ((bind_of_some closes).trans ends) ended
    · simpa [Tree.any, Tree.anyOf, Form.isInitialized, Tree.statement, Tree.paren] using complete
  | closed _ ended =>
    rw [(takes_expect ")").ended ended] at closes
    cases closes

/-! Texts that are expressions -/

/-- The opening parenthesis around an expression does not start the parameters of an arrow
function. -/
theorem noArrow_of_expression {depth : Nat}
    (settled : settle ⟨text, 2, true, []⟩ = some ((), cursor)) (deep : Deep depth cursor)
    (read : rulesOf (depth + 1) .expression scriptWithin cursor = some (tree, after))
    (ended : after.rest = []) :
    arrow? (rulesOf depth) scriptWithin (wrapperStart text) =
      some (none, wrapperStart text) := by
  have noHead : parametersHead (rulesOf depth) scriptWithin scriptWithin false
      (wrapperStart text) = none := by
    refine Option.eq_none_iff_forall_ne_some.mpr fun ⟨head, last⟩ found => ?_
    change (arrowHead (rulesOf depth) scriptWithin false) (wrapperStart text) = _ at found
    simp only [arrowHead, typeParameters?_plain, annotation?_plain, pure_bind] at found
    obtain ⟨list, middle, isList, found⟩ := bind_eq_some.mp found
    obtain ⟨_, _, isArrow, _⟩ := bind_eq_some.mp found
    have isMark := mark_of_arrowMark isArrow
    obtain ⟨_, first, opens, isList⟩ := bind_eq_some.mp isList
    obtain ⟨trees, _, isList, same⟩ := bind_eq_some.mp isList
    cases same
    rw [expect_wrapperStart, settled] at opens
    cases opens
    have := deep.agreeing deep
    have agree : Agree (16 * cursor.rest.length + 16) True 16
      (iterate (parameterStep (rulesOf depth) scriptWithin) [])
      (iterate (parameterStep (rulesOf depth) scriptWithin) []) := agree_parameterList
    have meets := agree cursor (Nat.le_refl _)
    have isList' : iterate (parameterStep (rulesOf depth) scriptWithin) [] cursor.enclosed =
      some (trees, middle) := isList
    rw [isList'] at meets
    generalize own : iterate (parameterStep (rulesOf depth) scriptWithin) [] cursor = found at meets
    cases meets with
    | read _ middle => exact inside_of_parameterList deep deep own read ended
    | closed _ ended =>
      rw [ended] at isMark
      cases isMark
  rw [arrow?_eq, bind_of_some (attempt_of_none noHead)]
  rfl

/-- In parentheses, what is one expression on its own is one operand. -/
theorem access_wrapperStart {depth : Nat}
    (settled : settle ⟨text, 2, true, []⟩ = some ((), cursor)) (deep : Deep depth cursor)
    (read : rulesOf depth .expression scriptWithin cursor = some (tree, after))
    (ended : after.rest = []) :
    access (rulesOf depth) scriptWithin true (wrapperStart text) =
      some (tree.paren, ⟨[], after.line + 1, false, []⟩) := by
  have := deep.agreeing deep
  have agree : Agree (16 * cursor.rest.length + 16) True 16
    (rulesOf depth .expression scriptWithin) (rulesOf depth .expression scriptWithin) := agree_rule
  have meets := agree cursor (Nat.le_refl _)
  rw [read] at meets
  generalize wrapped : rulesOf depth .expression scriptWithin cursor.enclosed = found at meets
  cases meets
  have opens : expect "(" (wrapperStart text) = some ((), cursor.enclosed) := by
    rw [expect_wrapperStart, settled]
    rfl
  have operand : primary (rulesOf depth) scriptWithin (wrapperStart text) =
      some (tree.paren, ⟨[], after.line + 1, false, []⟩) := by
    rw [primary_of_paren rfl]
    unfold parenthesized
    rw [bind_of_some opens, bracketed_scriptWithin, bind_of_some wrapped,
      bind_of_some (expect_enclosed_of_ended ended)]
    rfl
  unfold access
  rw [bind_of_some (rfl : lineNumber (wrapperStart text) = some (1, wrapperStart text)),
    bind_of_some operand]
  rfl

theorem readScript_of_readExpression {source : String}
    (read : readExpression 2 source.toList = some tree) :
    (readScript (enclosed source)).map Tree.unplacedAll =
      some [tree.unplaced.paren.statement] := by
  generalize least : depthFor source.toList = depth
  have enough (more : Nat) : depthFor source.toList ≤ depth + more := by omega
  obtain ⟨cursor, after, settled, isTree, ended, complete⟩ :=
    (readExpression_eq_some_of_deep (enough 60)).mp read
  have deep (more : Nat) : Deep (depth + more) cursor := deep_of_settle (enough more) settled
  have operand := access_wrapperStart settled (deep 60) isTree ended
  obtain ⟨_, isTree', ended'⟩ := exists_ended_of_deep (deep 60) (deep 63) isTree ended
  have noArrow := noArrow_of_expression settled (deep 62) isTree' ended'
  have ends : Ends ⟨[], after.line + 1, false, []⟩ := .text _
  have isUnary : rulesOf (depth + 62) .unary scriptWithin (wrapperStart source.toList) =
      some (tree.paren, ⟨[], after.line + 1, false, []⟩) :=
    (unary_of_paren rfl).trans (postfixed_of_operand operand ends)
  have isAssignment : rulesOf (depth + 63) .assignment scriptWithin (wrapperStart source.toList) =
      some (tree.paren, ⟨[], after.line + 1, false, []⟩) :=
    assignment_of_unary isUnary rfl noArrow ends
  have isExpression : rulesOf (depth + 60 + 4) .expression scriptWithin
      (wrapperStart source.toList) = some (tree.paren, ⟨[], after.line + 1, false, []⟩) :=
    expression_of_assignment isAssignment ends
  have isStatement : expressionStatement (rulesOf (depthFor (enclosed source))) scriptWithin
      (wrapperStart source.toList) =
        some (tree.paren.statement, ⟨[], after.line + 1, false, []⟩) := by
    rw [depthFor_enclosed, least]
    unfold expressionStatement
    rw [bind_of_some isExpression]
    rfl
  refine readScript_of_readExpressions ?_ (Tree.opening_of_own rfl _)
  refine map_unplacedAll_eq_singleton.mpr ⟨tree.paren.statement, ?_, rfl⟩
  refine itemsOf_eq_singleton.mpr ⟨wrapperStart source.toList, _, settle_wrapperStart _,
    List.cons_ne_nil _ _, withComments_eq_some.mpr ⟨_, isStatement, rfl⟩, rfl, ?_⟩
  simpa [Tree.any, Tree.anyOf, Form.isInitialized, Tree.statement, Tree.paren] using complete

end CssInline.Code

namespace CssInline

open Code

/-- A text is accepted as an expression if and only if it is one on its own, from its first token to
its end. The expression is kept as it is where it can stand anywhere, and else put in one pair of
parentheses. -/
theorem accepted_iff_read_as_expression (source : String) (result : Tree) :
    parseExpression source = .ok result ↔
      ∃ tree, readExpression 2 source.toList = some tree ∧
        result = if isAtomic tree.unplaced then tree.unplaced else tree.unplaced.paren := by
  constructor
  · intro parsed
    obtain ⟨inner, read, rfl⟩ := exists_inner_of_parseExpression parsed
    obtain ⟨tree, isTree, rfl⟩ := exists_tree_of_readScript read
    exact ⟨tree, isTree, rfl⟩
  · rintro ⟨tree, read, rfl⟩
    unfold parseExpression
    rw [readScript_of_readExpression read]
    rfl

/-- No text closes the parentheses that are put around it. -/
example : ∀ source ∈ ["1), (2", "a)(b", "a) => (b"],
    parseExpression source = .error (.unwrapped source) := by
  decide +kernel

example : parseExpression "a // b" = .ok (.name "a") := by
  decide +kernel

end CssInline
