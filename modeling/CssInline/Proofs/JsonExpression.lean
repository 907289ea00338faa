import CssInline.Expression
import CssInline.Proofs.JsonString

/-! A JSON string, read as an expression. -/

namespace CssInline.Code

open Reader Grammar

theorem Reader.bind_of_some {reader : Reader α} {next : α → Reader β} {cursor after : Cursor}
    {value : α} (read : reader cursor = some (value, after)) :
    (reader >>= next) cursor = next value after := by
  change (reader cursor).bind _ = _
  rw [read]
  rfl

theorem Reader.iterate_of_done {step : α → Reader (α ⊕ β)} {state : α} {result : β}
    {cursor after : Cursor} (done : step state cursor = some (.inr result, after)) :
    iterate step state cursor = some (result, after) := by
  change iterateFrom step (cursor.rest.length + 1 + 1) state cursor = _
  rw [iterateFrom, Reader.bind_of_some done]
  rfl

theorem Reader.iterate_of_more {step : α → Reader (α ⊕ β)} {state : α} {result : β}
    {cursor after : Cursor} (next : α) (middle : Cursor)
    (more : step state cursor = some (.inl next, middle))
    (done : step next middle = some (.inr result, after)) :
    iterate step state cursor = some (result, after) := by
  change iterateFrom step (cursor.rest.length + 1 + 1) state cursor = _
  rw [iterateFrom, Reader.bind_of_some more]
  change iterateFrom step (cursor.rest.length + 1) next middle = _
  rw [iterateFrom, Reader.bind_of_some done]
  rfl

namespace Grammar

/-- Where the code of a script stands. -/
def scriptWithin : Within := { types := false, markup := false, isModule := false, strict := false }

/-- A place where an expression ends: at the closing parenthesis on a line of its own, or at the end
of the text. -/
inductive Ends : Cursor → Prop
  | closing (line : Nat) : Ends ⟨[')'], line, true, []⟩
  | text (line : Nat) : Ends ⟨[], line, false, []⟩

/-- A place where an operand starts, and neither a word nor an operator before it. -/
structure Starts (cursor : Cursor) : Prop where
  noYield : atWord "yield" cursor = some (false, cursor)
  noArrow : ∀ depth, arrow? (rulesOf (depth + 1)) scriptWithin cursor = some (none, cursor)
  noOperator : ∀ rules, unary rules scriptWithin cursor = postfixed rules scriptWithin cursor

variable {rules : Rules} {cursor after : Cursor} {tree : Tree}

theorem postfixed_of_operand (operand : rules .operand scriptWithin cursor = some (tree, after))
    (ends : Ends after) : postfixed rules scriptWithin cursor = some (tree, after) := by
  unfold postfixed
  rw [Reader.bind_of_some operand]
  cases ends <;> rfl

theorem binary_of_unary (first : rules .unary scriptWithin cursor = some (tree, after))
    (ends : Ends after) : binary rules scriptWithin cursor = some (tree, after) := by
  unfold binary
  rw [Reader.bind_of_some first]
  cases ends <;> rfl

theorem conditional_of_unary (first : rules .unary scriptWithin cursor = some (tree, after))
    (ends : Ends after) : conditional rules scriptWithin cursor = some (tree, after) := by
  unfold conditional
  rw [Reader.bind_of_some (binary_of_unary first ends)]
  cases ends <;> rfl

theorem assignment_of_unary (first : rules .unary scriptWithin cursor = some (tree, after))
    (noYield : atWord "yield" cursor = some (false, cursor))
    (noArrow : arrow? rules scriptWithin cursor = some (none, cursor)) (ends : Ends after) :
    assignment rules scriptWithin cursor = some (tree, after) := by
  unfold assignment
  rw [Reader.bind_of_some noYield]
  change (arrow? rules scriptWithin >>= _) cursor = _
  rw [Reader.bind_of_some noArrow]
  change (conditional rules scriptWithin >>= assignmentFrom rules scriptWithin) cursor = _
  rw [Reader.bind_of_some (conditional_of_unary first ends)]
  cases ends <;> rfl

theorem expression_of_assignment
    (first : rules .assignment scriptWithin cursor = some (tree, after)) (ends : Ends after) :
    expression rules scriptWithin cursor = some (tree, after) := by
  have items : separated "," (rules .assignment scriptWithin) cursor = some ([tree], after) := by
    refine Reader.iterate_of_done ?_
    rw [Reader.bind_of_some first]
    cases ends <;> rfl
  unfold expression
  rw [Reader.bind_of_some items]
  rfl

/-- The rules take four steps from an expression to its first operand. -/
theorem expression_of_operand (depth : Nat) (starts : Starts cursor) (ends : Ends after)
    (operand : access (rulesOf depth) scriptWithin true cursor = some (tree, after)) :
    rulesOf (depth + 4) .expression scriptWithin cursor = some (tree, after) := by
  have unary : rulesOf (depth + 2) .unary scriptWithin cursor = some (tree, after) := by
    change Grammar.unary (rulesOf (depth + 1)) scriptWithin cursor = _
    rw [starts.noOperator]
    exact postfixed_of_operand operand ends
  have assignment : rulesOf (depth + 3) .assignment scriptWithin cursor = some (tree, after) :=
    assignment_of_unary unary starts.noYield (starts.noArrow (depth + 1)) ends
  exact expression_of_assignment assignment ends

/-! Strings -/

theorem starts_jsonString (text rest : List Char) (line : Nat) (afterBreak : Bool) :
    Starts ⟨Text.jsonString text ++ rest, line, afterBreak, []⟩ where
  noYield := rfl
  noArrow _ := rfl
  noOperator _ := rfl

theorem advance_jsonString (text after : List Char) (line : Nat) (afterBreak : Bool) :
    ∃ line', advance (Text.jsonString text).length
        ⟨Text.jsonString text ++ after, line, afterBreak, []⟩ =
      some ((), ⟨after, line', false, []⟩) := by
  refine ⟨line + lineFeeds (Text.jsonString text), ?_⟩
  have cursor : advance (Text.jsonString text).length
      ⟨Text.jsonString text ++ after, line, afterBreak, []⟩ =
      some ((), ⟨(Text.jsonString text ++ after).drop (Text.jsonString text).length,
        line + lineFeeds ((Text.jsonString text ++ after).take (Text.jsonString text).length),
        false, []⟩) := rfl
  rw [cursor, List.drop_left, List.take_left]

theorem string_jsonString (text : List Char) (line : Nat) (afterBreak : Bool) :
    ∃ line', string scriptWithin ⟨Text.jsonString text ++ ['\n', ')'], line, afterBreak, []⟩ =
      some (⟨String.ofList text, String.ofList (Text.jsonString text)⟩,
        ⟨[')'], line', true, []⟩) := by
  obtain ⟨line', advanced⟩ := advance_jsonString text ['\n', ')'] line afterBreak
  have passed : Reader.pass (Text.jsonString text).length
      ⟨Text.jsonString text ++ ['\n', ')'], line, afterBreak, []⟩ =
      some ((), ⟨[')'], line' + 1, true, []⟩) := by
    unfold Reader.pass
    rw [Reader.bind_of_some advanced]
    rfl
  have lexeme := stringLexeme?_jsonString text ['\n', ')']
  have found : (do ofOption (stringLexeme? scriptWithin.octal (← remaining)))
      ⟨Text.jsonString text ++ ['\n', ')'], line, afterBreak, []⟩ =
      some ((⟨String.ofList text, String.ofList (Text.jsonString text)⟩,
        (Text.jsonString text).length),
          ⟨Text.jsonString text ++ ['\n', ')'], line, afterBreak, []⟩) := by
    change ofOption (stringLexeme? true (Text.jsonString text ++ ['\n', ')'])) _ = _
    rw [lexeme]
    rfl
  refine ⟨line' + 1, ?_⟩
  unfold string quotedString
  rw [← bind_assoc, Reader.bind_of_some found]
  change (Reader.pass (Text.jsonString text).length >>= _) _ = _
  rw [Reader.bind_of_some passed]
  rfl

/-- The tree of a string that is written in JSON. -/
def jsonTree (text : List Char) : Tree :=
  .leaf (.string (String.ofList text) (some (String.ofList (Text.jsonString text))))

theorem access_jsonString (rules : Rules) (text : List Char) (line : Nat) (afterBreak : Bool) :
    ∃ line', access rules scriptWithin true
        ⟨Text.jsonString text ++ ['\n', ')'], line, afterBreak, []⟩ =
      some (jsonTree text, ⟨[')'], line', true, []⟩) := by
  obtain ⟨line', read⟩ := string_jsonString text line afterBreak
  have primary : primary rules scriptWithin
      ⟨Text.jsonString text ++ ['\n', ')'], line, afterBreak, []⟩ =
      some (jsonTree text, ⟨[')'], line', true, []⟩) := by
    have quoted : atQuote ⟨Text.jsonString text ++ ['\n', ')'], line, afterBreak, []⟩ =
        some (true, ⟨Text.jsonString text ++ ['\n', ')'], line, afterBreak, []⟩) := rfl
    unfold Grammar.primary
    rw [Reader.bind_of_some quoted]
    change (string scriptWithin >>= _) _ = _
    rw [Reader.bind_of_some read]
    rfl
  refine ⟨line', ?_⟩
  unfold access
  rw [Reader.bind_of_some rfl, Reader.bind_of_some primary]
  rfl

/-! Parentheses -/

theorem starts_paren (text rest : List Char) (line : Nat) (afterBreak : Bool) :
    Starts ⟨'(' :: '\n' :: (Text.jsonString text ++ rest), line, afterBreak, []⟩ where
  noYield := rfl
  noArrow _ := rfl
  noOperator _ := rfl

/-- The start of a JSON string in parentheses. -/
def opening (text : List Char) : Cursor :=
  ⟨'(' :: '\n' :: (Text.jsonString text ++ ['\n', ')']), 1, true, []⟩

theorem access_opening {text : List Char} {line : Nat}
    (inside : rules .expression scriptWithin ⟨Text.jsonString text ++ ['\n', ')'], 2, true, []⟩ =
      some (tree, ⟨[')'], line, true, []⟩)) :
    access rules scriptWithin true (opening text) = some (.paren tree, ⟨[], line, false, []⟩) := by
  have opens : primary rules scriptWithin (opening text) =
      (do
        let tree ← rules .expression scriptWithin
        expect ")"
        return tree.paren) ⟨Text.jsonString text ++ ['\n', ')'], 2, true, []⟩ := rfl
  have primary : primary rules scriptWithin (opening text) =
      some (.paren tree, ⟨[], line, false, []⟩) := by
    rw [opens, Reader.bind_of_some inside]
    rfl
  unfold access
  rw [Reader.bind_of_some rfl, Reader.bind_of_some primary]
  rfl

theorem item_of_expression {text : List Char} {line : Nat}
    (expression : rules .expression scriptWithin (opening text) =
      some (tree, ⟨[], line, false, []⟩)) :
    item rules scriptWithin (opening text) =
      some (.node .expressionStatement [tree], ⟨[], line, false, []⟩) := by
  have statement : expressionStatement rules scriptWithin (opening text) =
      some (.node .expressionStatement [tree], ⟨[], line, false, []⟩) := by
    unfold expressionStatement
    rw [Reader.bind_of_some expression]
    rfl
  have noDeclaration : declaration? rules scriptWithin (opening text) =
      some (none, opening text) := rfl
  have noBlock : atMark "\x7b" (opening text) = some (false, opening text) := rfl
  have noSemicolon : atMark ";" (opening text) = some (false, opening text) := rfl
  have noKeyword : keyword? (opening text) = some (none, opening text) := rfl
  have noLabel : label? scriptWithin (opening text) = some (none, opening text) := rfl
  have readStatement : plainStatement rules scriptWithin (opening text) =
      some (.node .expressionStatement [tree], ⟨[], line, false, []⟩) := by
    unfold plainStatement
    rw [Reader.bind_of_some noBlock]
    simp only [Bool.false_eq_true, if_false]
    rw [Reader.bind_of_some noSemicolon]
    simp only [Bool.false_eq_true, if_false]
    rw [Reader.bind_of_some noKeyword]
    simp only
    rw [Reader.bind_of_some noLabel]
    exact statement
  have readItem : plainItem rules scriptWithin (opening text) =
      some (.node .expressionStatement [tree], ⟨[], line, false, []⟩) := by
    unfold plainItem
    rw [Reader.bind_of_some noDeclaration]
    exact readStatement
  change (plainItem rules scriptWithin >>= fun tree => pure tree) (opening text) = _
  rw [Reader.bind_of_some readItem]
  rfl

theorem item_opening (depth : Nat) (text : List Char) :
    ∃ line, item (rulesOf (depth + 8)) scriptWithin (opening text) =
      some (.node .expressionStatement [.paren (jsonTree text)], ⟨[], line, false, []⟩) := by
  obtain ⟨line, operand⟩ := access_jsonString (rulesOf depth) text 2 true
  have inside : rulesOf (depth + 4) .expression scriptWithin
      ⟨Text.jsonString text ++ ['\n', ')'], 2, true, []⟩ =
      some (jsonTree text, ⟨[')'], line, true, []⟩) := by
    have starts := starts_jsonString text ['\n', ')'] 2 true
    exact expression_of_operand depth starts (.closing line) operand
  have outside : rulesOf (depth + 8) .expression scriptWithin (opening text) =
      some (.paren (jsonTree text), ⟨[], line, false, []⟩) := by
    have starts : Starts (opening text) := starts_paren text ['\n', ')'] 1 true
    exact expression_of_operand (depth + 4) starts (.text line) (access_opening inside)
  exact ⟨line, item_of_expression outside⟩

/-- An item that is no directive and reaches to the end of the text is the only one. -/
theorem items_of_item {read : Within → Reader Tree}
    (whole : read scriptWithin cursor = some (tree, after))
    (going : atEnd cursor = some (false, cursor)) (done : after.rest = [])
    (noDirective : isDirective tree = false) :
    items read scriptWithin atEnd cursor = some ([tree], after) := by
  have ended : atEnd after = some (true, after) := by
    unfold atEnd remaining
    simp [Reader.bind_apply, here, done, pure]
  unfold items
  refine Reader.iterate_of_more ⟨[tree], scriptWithin, false⟩ after ?_ ?_
  · rw [Reader.bind_of_some going]
    change (read scriptWithin >>= _) cursor = _
    rw [Reader.bind_of_some whole, noDirective]
    rfl
  · rw [Reader.bind_of_some ended]
    rfl

end Grammar

theorem readScript_of_item {text : List Char} {cursor after : Cursor} {tree : Tree}
    (settled : settle (Cursor.start text) = some ((), cursor))
    (items : Grammar.items (Grammar.item (Grammar.rulesOf (Grammar.depthFor text)))
      Grammar.scriptWithin atEnd cursor = some ([tree], after))
    (complete : tree.any (fun form => form matches .initialized _) = false) :
    readScript text = some [tree] := by
  have within : ({
      types := Dialect.plain.types
      markup := Dialect.plain.markup
      isModule := false
      strict := false } : Grammar.Within) = Grammar.scriptWithin := rfl
  unfold readScript readItems
  simp only [Bool.false_eq_true, if_false, within, Reader.bind_of_some settled, items]
  simp only [Option.map_some, Option.filter_some, Tree.anyOf, Bool.or_false]
  exact if_pos (congrArg not complete)

theorem readScript_jsonString (text : List Char) :
    readScript (enclosed (String.ofList (Text.jsonString text))) =
      some [.node .expressionStatement [.paren (Grammar.jsonTree text)]] := by
  have same : enclosed (String.ofList (Text.jsonString text)) = (Grammar.opening text).rest := by
    rw [enclosed, String.toList_ofList]
    rfl
  obtain ⟨line, read⟩ := Grammar.item_opening (16 * (Grammar.opening text).rest.length + 8) text
  have depth : 16 * (Grammar.opening text).rest.length + 8 + 8 =
      Grammar.depthFor (Grammar.opening text).rest := rfl
  rw [depth] at read
  rw [same]
  exact readScript_of_item rfl (Grammar.items_of_item read rfl rfl rfl) rfl

end CssInline.Code

namespace CssInline

theorem parseExpression_jsonString (text : List Char) :
    parseExpression (String.ofList (Text.jsonString text)) = .ok (Code.Grammar.jsonTree text) :=
  parseExpression_of_readScript (Code.readScript_jsonString text)

end CssInline
