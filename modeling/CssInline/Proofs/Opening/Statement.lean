import CssInline.Proofs.Opening.Expression

/-! Which items of a script are expressions: those that open plainly. -/

namespace CssInline.Code

open Reader Grammar

/-! Variables that are whole expressions -/

def binaryOperators : List String :=
  ["??", "||", "&&", "|", "^", "&", "==", "!=", "===", "!==", "<", ">", "<=", ">=", "instanceof",
    "in", "<<", ">>", ">>>", "+", "-", "*", "/", "%", "**"]

/-- What may follow a variable with which a statement starts. -/
def followingTokens : List String :=
  ["(", "[", ".", "?.", "=>", "?", "=", ",", "++", "--", ";"] ++ binaryOperators ++
    assignmentOperators

theorem precedence?_eq_none {token : String} (other : token ∉ binaryOperators) :
    precedence? token = none := by
  unfold precedence?
  split <;> first | rfl | exact absurd (by decide) other

namespace Reader

theorem head_of_wordOf? {text : List Char} {word : Word} (isWord : wordOf? text = some word) :
    ∃ c, text.head? = some c ∧ (isWordStart c = true ∨ c = '\\') := by
  by_contra other
  rw [wordOf?_of_other] at isWord
  · cases isWord
  · cases starts : text.head? with
    | none => rfl
    | some c =>
      rw [starts] at other
      simp only [Option.some.injEq, exists_eq_left', not_or, Bool.not_eq_true] at other
      simp [other]

theorem markOf?_of_word {text : List Char} {word : Word} (isWord : wordOf? text = some word) :
    markOf? text = none := by
  cases isMark : markOf? text with
  | none => rfl
  | some mark =>
    rw [wordOf?_of_mark isMark] at isWord
    cases isWord

/-- What starts with a backslash is no word, or holds an escape. -/
theorem escaped_of_backslash {fuel : Nat} {rest name after : List Char} {escaped : Bool}
    (found : wordFrom fuel [] ('\\' :: rest) false = some (name, after, escaped))
    (going : name ≠ []) : escaped = true := by
  cases fuel with
  | zero => cases found
  | succ fuel =>
    by_cases isEscape : ∃ rest', rest = 'u' :: rest'
    · obtain ⟨rest', rfl⟩ := isEscape
      rw [wordFrom] at found
      split at found
      · simp only [List.isEmpty_nil, if_true] at found
        split at found
        · cases escaped with
          | true => rfl
          | false => exact absurd (eq_append_of_wordFrom found).1 Bool.noConfusion
        · cases found
      · cases found
    · rw [wordFrom.eq_3 _ _ _ _ _ fun rest' _ same => isEscape ⟨rest', same⟩] at found
      have stops : ¬ (if ([] : List Char).isEmpty then isWordStart '\\' else isWordRest '\\') =
          true := by decide +kernel
      rw [if_neg stops] at found
      cases found
      exact absurd rfl going

/-- A keyword starts with a letter, so it is no mark. -/
theorem head_of_keywordOf? {text : List Char} {keyword : String}
    (isKeyword : keywordOf? text = some keyword) : keyword.toList.head?.any isWordStart = true := by
  unfold keywordOf? at isKeyword
  split at isKeyword
  case h_2 => cases isKeyword
  rename_i word isWord
  split at isKeyword
  case isTrue => cases isKeyword
  rename_i plain
  obtain ⟨c, starts, isStart⟩ := head_of_wordOf? isWord
  unfold wordOf? at isWord
  split at isWord
  case h_2 => cases isWord
  rename_i name after escaped found
  split at isWord
  case isTrue => cases isWord
  rename_i going
  cases isWord
  cases isKeyword
  obtain rfl : escaped = false := Bool.not_eq_true _ |>.mp plain
  obtain ⟨_, _, rfl, rfl⟩ := eq_append_of_wordFrom found
  cases name with
  | nil => exact absurd rfl going
  | cons first name =>
    cases starts
    rcases isStart with isStart | rfl
    · simpa using isStart
    · exact absurd (escaped_of_backslash found (by simp)) Bool.false_ne_true

end Reader

/-- Whether `let` stands here as a keyword. -/
def Cursor.atLet (cursor : Cursor) : Bool :=
  ((do
    expectWord "let"
    let word ← word?
    require ((← atMark "[") || (← atMark "\x7b") ||
      word.any fun word => !(["in", "instanceof", "of"].contains word.text)) :
    Reader Unit) cursor).isSome

namespace Grammar

variable {cursor next after : Cursor} {word : Word} {tree : Tree} {rules : Rules}

theorem head_of_mark {mark : String} (isMark : markOf? cursor.rest = some mark) :
    cursor.rest.head? ≠ some '\x60' := by
  intro starts
  obtain ⟨rest, same⟩ := List.head?_eq_some_iff.mp starts
  rw [same] at isMark
  cases isMark

/-- A place where the text goes on, but not with what may follow a variable. -/
structure Stops (cursor : Cursor) : Prop where
  going : cursor.rest ≠ []
  noTemplate : cursor.rest.head? ≠ some '\x60'
  noToken : ∀ token, tokenOf? cursor.rest = some token → token ∉ followingTokens

theorem stops_of_mark {mark : String} (isMark : markOf? cursor.rest = some mark)
    (other : mark ∉ followingTokens) : Stops cursor where
  going empty := by
    rw [empty] at isMark
    cases isMark
  noTemplate := head_of_mark isMark
  noToken token isToken := by
    rw [tokenOf?, isMark] at isToken
    rwa [← Option.some.inj isToken]

theorem stops_of_word (isWord : wordOf? cursor.rest = some word)
    (other : word.text ∉ ["in", "instanceof"]) : Stops cursor where
  going empty := by
    rw [empty] at isWord
    cases isWord
  noTemplate starts := by
    obtain ⟨c, starts', isStart⟩ := head_of_wordOf? isWord
    rw [starts] at starts'
    cases starts'
    exact absurd isStart (by decide +kernel)
  noToken token isToken := by
    rw [tokenOf?, markOf?_of_word isWord, Option.none_or] at isToken
    intro follows
    have others : ∀ token ∈ followingTokens, token ∈ ["in", "instanceof"] ∨
        token.toList.head?.any isWordStart = false := by decide +kernel
    rcases others token follows with isOperator | isMark
    · obtain ⟨word', isWord', rfl⟩ := Cursor.wordOf?_of_keyword isToken
      rw [isWord] at isWord'
      cases isWord'
      exact other isOperator
    · rw [head_of_keywordOf? isToken] at isMark
      cases isMark

theorem Stops.noMark (stops : Stops cursor) {mark : String} (follows : mark ∈ followingTokens) :
    markOf? cursor.rest ≠ some mark := by
  intro isMark
  refine stops.noToken mark ?_ follows
  rw [tokenOf?, isMark, Option.some_or]

theorem accept_of_other {mark : String} (other : markOf? cursor.rest ≠ some mark) :
    accept mark cursor = some (false, cursor) := by
  rw [accept_apply, if_neg other]

theorem atMark_of_other {mark : String} (other : markOf? cursor.rest ≠ some mark) :
    atMark mark cursor = some (false, cursor) := by
  rw [atMark_apply, beq_eq_false_iff_ne.mpr other]

theorem acceptOneOf_of_other {tokens : List String}
    (other : ∀ token, tokenOf? cursor.rest = some token → token ∉ tokens) :
    acceptOneOf tokens cursor = some (none, cursor) := by
  unfold acceptOneOf
  rw [bind_of_some (token?_apply cursor)]
  split
  · rfl
  · rename_i token isToken
    rw [if_neg (mt List.contains_iff_mem.mp (other token isToken))]
    rfl

/-- The marks with which an access goes on in plain code. -/
def accessMarks : List String :=
  ["(", "[", ".", "?."]

theorem accessStep_of_other {line : Nat} {calls : Bool} {access : Access}
    (noTemplate : cursor.rest.head? ≠ some '\x60')
    (noMark : ∀ mark ∈ accessMarks, markOf? cursor.rest ≠ some mark) :
    accessStep rules scriptWithin line calls access cursor = some (.inr access.tree, cursor) := by
  have noBacktick : atBacktick cursor = some (false, cursor) := by
    change some (cursor.rest.head? == some '\x60', cursor) = _
    rw [beq_eq_false_iff_ne.mpr noTemplate]
  unfold accessStep
  rw [bind_of_some noBacktick, if_neg Bool.false_ne_true, bind_of_some (mark?_apply cursor)]
  split
  case h_5 => rfl
  case h_6 => rfl
  case h_7 => rfl
  all_goals exact absurd ‹_› (noMark _ (by decide))

/-! Words are no literals -/

/-- A character with which no word starts is not where a word is. -/
theorem head_ne_of_word (isWord : wordOf? cursor.rest = some word) {c mark : Char}
    (starts : cursor.rest.head? = some c) (isOther : (!isWordStart mark && mark != '\\') = true) :
    c ≠ mark := by
  rintro rfl
  obtain ⟨c', starts', isStart⟩ := head_of_wordOf? isWord
  rw [starts] at starts'
  cases starts'
  simp only [Bool.and_eq_true, Bool.not_eq_true', bne_iff_ne] at isOther
  exact isStart.elim (by simp [isOther]) isOther.2

theorem atQuote_of_word (isWord : wordOf? cursor.rest = some word) :
    atQuote cursor = some (false, cursor) := by
  obtain ⟨c, starts, _⟩ := head_of_wordOf? isWord
  change some (cursor.rest.head?.any _, cursor) = _
  simp [starts, head_ne_of_word isWord starts (by decide +kernel : (!isWordStart '"' && _) = true),
    head_ne_of_word isWord starts (by decide +kernel : (!isWordStart '\x27' && _) = true)]

theorem atDigit_of_word (isWord : wordOf? cursor.rest = some word) :
    atDigit cursor = some (false, cursor) := by
  obtain ⟨c, starts, _⟩ := head_of_wordOf? isWord
  have noDigit : c.isDigit = false := by
    rw [← Bool.not_eq_true]
    intro isDigit
    have isOther := Cursor.isOther_of_isDigit isDigit
    rw [Bool.and_eq_true, Bool.and_eq_true] at isOther
    exact head_ne_of_word isWord starts isOther.1.1 rfl
  change some (cursor.rest.head?.any Char.isDigit ||
    (cursor.rest.head? == some '.' && (cursor.rest.drop 1).head?.any Char.isDigit), cursor) = _
  simp [starts, noDigit,
    head_ne_of_word isWord starts (by decide +kernel : (!isWordStart '.' && _) = true)]

theorem atBacktick_of_word (isWord : wordOf? cursor.rest = some word) :
    atBacktick cursor = some (false, cursor) := by
  obtain ⟨c, starts, _⟩ := head_of_wordOf? isWord
  change some (cursor.rest.head? == some '\x60', cursor) = _
  simp [starts,
    head_ne_of_word isWord starts (by decide +kernel : (!isWordStart '\x60' && _) = true)]

/-! Variables -/

/-- A variable that is not the first word of an asynchronous function. -/
structure Variable (cursor : Cursor) (word : Word) (next : Cursor) : Prop where
  isWord : anyWord cursor = some (word, next)
  isName : isVariableName scriptWithin word.text = true
  noAsync : keywordOf? cursor.rest = some "async" → wordOf? next.rest = none

namespace Variable

variable (isVariable : Variable cursor word next)

include isVariable

theorem noMark (mark : String) : markOf? cursor.rest ≠ some mark := by
  rw [markOf?_of_word (anyWord_eq_some.mp isVariable.isWord).1]
  nofun

theorem notReserved : word.text ∉ reservedWords := by
  have isName := isVariable.isName
  simp only [isVariableName, Bool.and_eq_true, Bool.not_eq_true', List.contains_eq_mem,
    decide_eq_false_iff_not] at isName
  exact isName.1.1.1

theorem noKeyword {keyword : String} (reserved : keyword ∈ reservedWords) :
    keywordOf? cursor.rest ≠ some keyword := by
  intro isKeyword
  obtain ⟨word', isWord', rfl⟩ := Cursor.wordOf?_of_keyword isKeyword
  rw [(anyWord_eq_some.mp isVariable.isWord).1] at isWord'
  cases isWord'
  exact isVariable.notReserved reserved

theorem variableTree : Grammar.variableTree scriptWithin cursor = some (.name word.text, next) := by
  unfold Grammar.variableTree
  rw [bind_of_some (variableName_eq_some.mpr ⟨word, isVariable.isWord, rfl, isVariable.isName⟩)]
  rfl

theorem noFunction (isAsync : keywordOf? cursor.rest = some "async") :
    cursor.atAsyncFunction = false := by
  refine atAsyncFunction_eq_false isVariable.isWord ?_
  rw [keywordOf?, isVariable.noAsync isAsync]
  intro isKeyword
  cases isKeyword

theorem wordExpression :
    Grammar.wordExpression rules scriptWithin cursor = some (.name word.text, next) := by
  unfold Grammar.wordExpression
  rw [bind_of_some (keyword?_apply cursor)]
  split
  case h_10 isAsync =>
    rw [bind_of_some (atAsyncFunction_apply cursor), isVariable.noFunction isAsync]
    exact isVariable.variableTree
  case h_11 => exact isVariable.variableTree
  all_goals exact absurd ‹_› (isVariable.noKeyword (by decide))

theorem primary : Grammar.primary rules scriptWithin cursor = some (.name word.text, next) := by
  have isWord := (anyWord_eq_some.mp isVariable.isWord).1
  unfold Grammar.primary
  rw [bind_of_some (atQuote_of_word isWord), if_neg Bool.false_ne_true,
    bind_of_some (atDigit_of_word isWord), if_neg Bool.false_ne_true,
    bind_of_some (atBacktick_of_word isWord), if_neg Bool.false_ne_true,
    bind_of_some (mark?_apply cursor), markOf?_of_word isWord]
  exact isVariable.wordExpression

/-- A variable is neither a mark nor a word that is reserved. -/
theorem noToken {tokens : List String}
    (operators : ∀ token ∈ tokens, token ∈ reservedWords ∨
      token.toList.head?.any isWordStart = false)
    {token : String} (isToken : tokenOf? cursor.rest = some token) : token ∉ tokens := by
  intro member
  rw [tokenOf?, markOf?_of_word (anyWord_eq_some.mp isVariable.isWord).1, Option.none_or] at isToken
  rcases operators token member with reserved | isMark
  · exact isVariable.noKeyword reserved isToken
  · rw [head_of_keywordOf? isToken] at isMark
    cases isMark

/-- Neither the name nor the word `async` and what follows it is the head of an arrow function. -/
theorem noArrow (noHead : ∀ mark ∈ ["=>", "(", "<"], markOf? next.rest ≠ some mark) :
    arrow? rules scriptWithin cursor = some (none, cursor) := by
  have noPlainHead : (do
      if (← atMark "(") || (← atTypeParameters scriptWithin) then
        arrowHead rules scriptWithin false
      else bareArrowHead scriptWithin) cursor = none := by
    refine Option.eq_none_iff_forall_ne_some.mpr fun ⟨head, after⟩ read => ?_
    rcases eq_bareArrowHead read with ⟨mark, isMark, _⟩ | isName
    · exact isVariable.noMark mark isMark
    · obtain ⟨name, next', isName, isMark⟩ := variableTree_of_bareArrowHead isName
      rw [isVariable.variableTree] at isName
      cases isName
      exact noHead _ (by decide) isMark
  unfold arrow?
  rw [bind_of_some (attempt_of_none noPlainHead)]
  dsimp only
  rw [bind_of_some (atWord_apply "async" cursor)]
  split
  · rfl
  rename_i isAsync
  rw [Bool.not_eq_true', Bool.not_eq_false, beq_iff_eq] at isAsync
  have noAsyncHead : (do
      asyncMark
      if (← atMark "(") || (← atTypeParameters scriptWithin) then
        arrowHead rules scriptWithin true
      else bareArrowHead { scriptWithin with isAsync := true }) cursor = none := by
    refine Option.eq_none_iff_forall_ne_some.mpr fun ⟨head, after⟩ read => ?_
    obtain ⟨_, next', isMark, read⟩ := bind_eq_some.mp read
    obtain ⟨_, _, isWord⟩ := anyWord_of_asyncMark isMark
    rw [isVariable.isWord] at isWord
    cases isWord
    rcases eq_bareArrowHead read with ⟨mark, isMark, rfl | rfl⟩ | isName
    · exact noHead _ (by decide) isMark
    · exact noHead _ (by decide) isMark
    · obtain ⟨_, _, isName, _⟩ := variableTree_of_bareArrowHead isName
      obtain ⟨_, _, isWord, _⟩ := exists_word_of_variableTree isName
      rw [anyWord_eq_some, isVariable.noAsync isAsync] at isWord
      cases isWord.1
  rw [bind_of_some (attempt_of_none noAsyncHead)]
  rfl

end Variable

/-- A variable with something after it that may not follow it. -/
structure LoneVariable (cursor : Cursor) (word : Word) (next : Cursor) : Prop where
  isWord : anyWord cursor = some (word, next)
  isName : isVariableName scriptWithin word.text = true
  stops : Stops next
  noAsync : keywordOf? cursor.rest = some "async" → wordOf? next.rest = none

namespace LoneVariable

variable (lone : LoneVariable cursor word next)

include lone

theorem isVariable : Variable cursor word next :=
  ⟨lone.isWord, lone.isName, lone.noAsync⟩

theorem access {calls : Bool} :
    Grammar.access rules scriptWithin calls cursor = some (.name word.text, next) := by
  have noMark : ∀ mark ∈ accessMarks, markOf? next.rest ≠ some mark := fun mark member =>
    lone.stops.noMark ((by decide : ∀ mark ∈ accessMarks, mark ∈ followingTokens) mark member)
  unfold Grammar.access
  rw [bind_of_some (rfl : lineNumber cursor = some (cursor.line, cursor)),
    bind_of_some lone.isVariable.primary]
  exact iterate_of_done (accessStep_of_other lone.stops.noTemplate noMark)

theorem postfixed (depth : Nat) :
    Grammar.postfixed (rulesOf (depth + 1)) scriptWithin cursor = some (.name word.text, next) := by
  have operand : rulesOf (depth + 1) .operand scriptWithin cursor = some (.name word.text, next) :=
    lone.access
  have noUpdate : acceptOneOf ["++", "--"] next = some (none, next) :=
    acceptOneOf_of_other fun token isToken member =>
      lone.stops.noToken token isToken
        ((by decide : ∀ token ∈ ["++", "--"], token ∈ followingTokens) token member)
  unfold Grammar.postfixed
  rw [bind_of_some operand, bind_of_some (rfl : afterBreak next = some (_, next))]
  split
  · rfl
  · rw [bind_of_some noUpdate]
    rfl

theorem unary (depth : Nat) :
    Grammar.unary (rulesOf (depth + 1)) scriptWithin cursor = some (.name word.text, next) := by
  have noOperator : acceptOneOf unaryOperators cursor = some (none, cursor) :=
    acceptOneOf_of_other fun _ => lone.isVariable.noToken (by decide +kernel)
  have noUpdate : acceptOneOf ["++", "--"] cursor = some (none, cursor) :=
    acceptOneOf_of_other fun _ => lone.isVariable.noToken (by decide +kernel)
  unfold Grammar.unary
  rw [bind_of_some noOperator, bind_of_some noUpdate]
  exact lone.postfixed depth

theorem binary (depth : Nat) :
    Grammar.binary (rulesOf (depth + 2)) scriptWithin cursor = some (.name word.text, next) := by
  have first : rulesOf (depth + 2) .unary scriptWithin cursor = some (.name word.text, next) :=
    lone.unary depth
  have noOperator : nextOperator? scriptWithin next = some (none, next) := by
    unfold nextOperator?
    rw [bind_of_some (token?_apply next)]
    split
    · rfl
    · rename_i token isToken
      have other : token ∉ binaryOperators := fun member =>
        lone.stops.noToken token isToken
          (List.mem_append_left _ (List.mem_append_right _ member))
      simp only [precedence?_eq_none other, scriptWithin, Bool.not_true, Bool.and_false]
      rfl
  have done : operationStep (rulesOf (depth + 2)) scriptWithin [] next = some (.inr [], next) := by
    unfold operationStep
    rw [bind_of_some (rfl : nextCast? scriptWithin next = some (none, next)),
      bind_of_some noOperator]
    rfl
  unfold Grammar.binary
  rw [bind_of_some first, bind_of_some (iterate_of_done done)]
  rfl

theorem conditional (depth : Nat) :
    Grammar.conditional (rulesOf (depth + 2)) scriptWithin cursor =
      some (.name word.text, next) := by
  unfold Grammar.conditional
  rw [bind_of_some (lone.binary depth),
    bind_of_some (accept_of_other (lone.stops.noMark (by decide)))]
  rfl

theorem assignment (depth : Nat) :
    Grammar.assignment (rulesOf (depth + 2)) scriptWithin cursor =
      some (.name word.text, next) := by
  have noAssignment : acceptOneOf assignmentOperators next = some (none, next) :=
    acceptOneOf_of_other fun token isToken member =>
      lone.stops.noToken token isToken (List.mem_append_right _ member)
  have noHead : ∀ mark ∈ ["=>", "(", "<"], markOf? next.rest ≠ some mark := fun mark member =>
    lone.stops.noMark ((by decide : ∀ mark ∈ ["=>", "(", "<"], mark ∈ followingTokens) mark member)
  unfold Grammar.assignment
  rw [bind_of_some (atWord_apply "yield" cursor)]
  change (arrow? _ scriptWithin >>= _) cursor = _
  rw [bind_of_some (lone.isVariable.noArrow noHead)]
  change (Grammar.conditional _ scriptWithin >>= _) cursor = _
  rw [bind_of_some (lone.conditional depth)]
  unfold assignmentFrom
  rw [bind_of_some (atMark_of_other (lone.stops.noMark (by decide))), if_neg Bool.false_ne_true,
    bind_of_some noAssignment]
  rfl

/-- The variable alone is the expression. -/
theorem expression (depth : Nat) :
    rulesOf (depth + 4) .expression scriptWithin cursor = some (.name word.text, next) := by
  have first : rulesOf (depth + 3) .assignment scriptWithin cursor =
      some (.name word.text, next) := lone.assignment depth
  have items : separated "," (rulesOf (depth + 3) .assignment scriptWithin) cursor =
      some ([.name word.text], next) := by
    refine iterate_of_done ?_
    rw [bind_of_some first,
      bind_of_some (accept_of_other (lone.stops.noMark (by decide)))]
    rfl
  change Grammar.expression _ scriptWithin cursor = _
  unfold Grammar.expression
  rw [bind_of_some items]
  rfl

/-- A statement that is the variable ends before the text does. -/
theorem going {depth : Nat}
    (read : expressionStatement (rulesOf (depth + 4)) scriptWithin cursor = some (tree, after)) :
    after.rest ≠ [] := by
  unfold expressionStatement semicolon at read
  rw [bind_of_some (lone.expression depth)] at read
  obtain ⟨_, _, ended, same⟩ := bind_eq_some.mp read
  cases same
  rw [bind_of_some (accept_of_other (lone.stops.noMark (by decide))),
    if_neg Bool.false_ne_true] at ended
  rw [bind_of_some (atMark_apply "\x7d" next),
    bind_of_some (rfl : atEnd next = some (_, next)),
    bind_of_some (rfl : afterBreak next = some (_, next))] at ended
  rw [(require_eq_some.mp ended).2]
  exact lone.stops.going

end LoneVariable

/-! Items that are no expressions -/

/-- An item that is no expression, whatever comments it has. -/
def NoExpression (tree : Tree) : Prop :=
  tree.unplaced.form ≠ .expressionStatement

theorem noExpression_own {form : Form} (own : form.isOwn = true)
    (other : form ≠ .expressionStatement) (parts : List Tree) :
    NoExpression (.node form parts) := by
  rwa [NoExpression, Tree.unplaced_of_own own]

section Gives

variable {start : Cursor} {within : Within}

theorem noExpression_variableStatement (keyword : String) :
    (variableStatement rules within keyword).Gives start NoExpression := by
  unfold variableStatement
  repeat' first
    | exact .pure (noExpression_own rfl (by simp) _)
    | with_reducible refine .last fun _ => ?_

theorem noExpression_forStatement : (forStatement rules within).Gives start NoExpression := by
  unfold forStatement forOf forIn forLoop
  repeat' first
    | exact .pure (noExpression_own rfl (by simp) _)
    | with_reducible refine .last fun _ => ?_
    | split

theorem noExpression_keywordStatement? {keyword : String} {reader : Reader Tree}
    (found : keywordStatement? rules within keyword = some reader) :
    reader.Gives start NoExpression := by
  unfold keywordStatement? ifStatement whileLoop doWhile switchStatement tryStatement
    returnStatement throwStatement withStatement debugger at found
  split at found <;> cases found
  case h_1 => exact noExpression_variableStatement "var"
  case h_3 => exact noExpression_forStatement
  all_goals
    repeat' first
      | exact .pure (noExpression_own rfl (by simp) _)
      | with_reducible refine .last fun _ => ?_
      | split

theorem noExpression_block : (block rules within).Gives start NoExpression := by
  unfold block
  exact .last fun _ => .last fun _ => .pure (noExpression_own rfl (by simp) _)

theorem noExpression_emptyStatement : emptyStatement.Gives start NoExpression := by
  unfold emptyStatement
  exact .last fun _ => .pure (noExpression_own rfl (by simp) _)

theorem noExpression_labeled (label : String) :
    (labeled rules within label).Gives start NoExpression := by
  unfold labeled
  exact .last fun _ => .last fun _ => .pure (noExpression_own rfl (by simp) _)

theorem noExpression_declaration? (noTypes : within.types = false) :
    (declaration? rules within).Gives start fun tree? => ∀ tree ∈ tree?, NoExpression tree := by
  unfold declaration? functionDeclaration classDeclaration
  have found {reader : Reader Tree} (gives : reader.Gives start NoExpression) :
      (do return some (← reader) : Reader (Option Tree)).Gives start fun tree? =>
        ∀ tree ∈ tree?, NoExpression tree :=
    .bind gives fun tree other => .pure fun other' same => Option.some.inj same ▸ other
  rw [noTypes, if_neg Bool.false_ne_true]
  refine .last fun keyword? => ?_
  split
  · exact found (noExpression_variableStatement _)
  · repeat' first
      | exact .pure nofun
      | refine found (.last fun _ => .pure (noExpression_own rfl (by simp) _))
      | with_reducible refine .last fun _ => ?_
      | split

end Gives

/-! Where expressions start -/

theorem atLet_apply (cursor : Cursor) : atLet cursor = some (cursor.atLet, cursor) := by
  simp only [atLet, Cursor.atLet, bind_apply, ahead, Option.bind_some]
  exact congrArg (fun found => some (found, cursor)) Option.isSome_map

theorem atLet_eq_true : cursor.atLet = true ↔ ∃ next, expectWord "let" cursor = some ((), next) ∧
    (markOf? next.rest = some "[" ∨ markOf? next.rest = some "\x7b" ∨
      ∃ word, wordOf? next.rest = some word ∧ word.text ∉ ["in", "instanceof", "of"]) := by
  unfold Cursor.atLet
  rw [Option.isSome_iff_exists]
  constructor
  · rintro ⟨_, read⟩
    obtain ⟨_, next, isLet, read⟩ := bind_eq_some.mp read
    rw [bind_of_some (word?_apply next), bind_of_some (atMark_apply "[" next),
      bind_of_some (atMark_apply "\x7b" next)] at read
    refine ⟨next, isLet, ?_⟩
    simpa [or_assoc, Option.any_eq_true] using (require_eq_some.mp read).1
  · rintro ⟨next, isLet, follows⟩
    refine ⟨((), next), ?_⟩
    rw [bind_of_some isLet, bind_of_some (word?_apply next), bind_of_some (atMark_apply "[" next),
      bind_of_some (atMark_apply "\x7b" next)]
    refine require_eq_some.mpr ⟨?_, rfl⟩
    simpa [or_assoc, Option.any_eq_true] using follows

/-- Where no statement starts but one that is an expression. -/
structure StartsExpression (cursor : Cursor) : Prop where
  noLet : cursor.atLet = false
  noBlock : markOf? cursor.rest ≠ some "\x7b"
  noSemicolon : markOf? cursor.rest ≠ some ";"
  noKeyword : ∀ keyword, keywordOf? cursor.rest = some keyword →
    keyword ∉ "function" :: "class" :: statementWords
  noFunction : cursor.atAsyncFunction = false
  noLabel : label? scriptWithin cursor = some (none, cursor)

theorem keywordStatement?_of_other {keyword : String} (other : keyword ∉ statementWords) :
    keywordStatement? rules scriptWithin keyword = none := by
  unfold keywordStatement?
  split <;> first | rfl | exact absurd (by decide) other

theorem variableKeyword?_apply (cursor : Cursor) : variableKeyword? cursor =
    some (if cursor.atLet then some "let"
      else (keywordOf? cursor.rest).filter (["var", "const"].contains ·), cursor) := by
  unfold variableKeyword?
  rw [bind_of_some (atLet_apply cursor)]
  split
  · rfl
  rw [bind_of_some (keyword?_apply cursor)]
  split
  · rename_i isKeyword
    rw [isKeyword]
    rfl
  · rename_i isKeyword
    rw [isKeyword]
    rfl
  · rename_i noVar noConst
    cases isKeyword : keywordOf? cursor.rest with
    | none => rfl
    | some keyword =>
      rw [isKeyword] at noVar noConst
      have other : ["var", "const"].contains keyword = false := by
        simp only [List.contains_eq_mem, List.mem_cons, List.not_mem_nil, or_false,
          decide_eq_false_iff_not, not_or]
        exact ⟨fun same => noVar (congrArg some same), fun same => noConst (congrArg some same)⟩
      rw [Option.filter_some, other]
      rfl

theorem declaration?_eq_none : declaration? rules scriptWithin cursor = some (none, after) ↔
    after = cursor ∧ cursor.atLet = false ∧ cursor.atAsyncFunction = false ∧
      ∀ keyword, keywordOf? cursor.rest = some keyword →
        keyword ∉ ["var", "const", "function", "class"] := by
  have noTypes : scriptWithin.types = false := rfl
  unfold declaration?
  simp only [noTypes, Bool.false_eq_true, if_false]
  rw [bind_of_some (variableKeyword?_apply cursor)]
  constructor
  · intro read
    split at read
    · obtain ⟨_, _, _, same⟩ := bind_eq_some.mp read
      cases same
    rename_i noVariable
    rw [bind_of_some (atWord_apply "function" cursor),
      bind_of_some (atAsyncFunction_apply cursor)] at read
    split at read
    · obtain ⟨_, _, _, same⟩ := bind_eq_some.mp read
      cases same
    rename_i noFunction
    rw [bind_of_some (atWord_apply "class" cursor)] at read
    split at read
    · obtain ⟨_, _, _, same⟩ := bind_eq_some.mp read
      cases same
    rename_i noClass
    cases read
    rw [Bool.or_eq_true, not_or, beq_iff_eq, Bool.not_eq_true] at noFunction
    rw [beq_iff_eq] at noClass
    split at noVariable
    · exact (noVariable _ rfl).elim
    rename_i noLet
    refine ⟨rfl, Bool.not_eq_true _ |>.mp noLet, noFunction.2, fun keyword isKeyword member => ?_⟩
    rw [isKeyword] at noVariable noFunction noClass
    simp only [List.mem_cons, List.not_mem_nil, or_false] at member
    rcases member with rfl | rfl | rfl | rfl
    · exact noVariable "var" rfl
    · exact noVariable "const" rfl
    · exact noFunction.1 rfl
    · exact noClass rfl
  · rintro ⟨rfl, noLet, noFunction, others⟩
    have noVariable : (keywordOf? after.rest).filter (["var", "const"].contains ·) = none := by
      rw [Option.filter_eq_none_iff]
      intro keyword isKeyword member
      have both : ∀ keyword ∈ ["var", "const"],
          keyword ∈ ["var", "const", "function", "class"] := by decide
      exact others keyword isKeyword (both keyword (List.contains_iff_mem.mp member))
    have other {keyword : String} (member : keyword ∈ ["var", "const", "function", "class"]) :
        atWord keyword after = some (false, after) := by
      rw [atWord_apply, beq_eq_false_iff_ne.mpr]
      exact fun isKeyword => others keyword isKeyword member
    simp only [noLet, Bool.false_eq_true, if_false, noVariable]
    rw [bind_of_some (other (by decide)), bind_of_some (atAsyncFunction_apply after), noFunction,
      Bool.or_false, if_neg Bool.false_ne_true, bind_of_some (other (by decide)),
      if_neg Bool.false_ne_true]
    rfl

theorem plainStatement_of_starts (starts : StartsExpression cursor) :
    plainStatement rules scriptWithin cursor = expressionStatement rules scriptWithin cursor := by
  unfold plainStatement
  rw [bind_of_some (atMark_of_other starts.noBlock), if_neg Bool.false_ne_true,
    bind_of_some (atMark_of_other starts.noSemicolon), if_neg Bool.false_ne_true,
    bind_of_some (keyword?_apply cursor)]
  split
  · rename_i keyword isKeyword
    have other := starts.noKeyword keyword isKeyword
    rw [keywordStatement?_of_other fun member =>
      other (List.mem_cons_of_mem _ (List.mem_cons_of_mem _ member))]
    have allowed : (!(["const", "class", "function"].contains keyword || false)) = true := by
      have others : ∀ keyword ∈ ["const", "class", "function"],
          keyword ∈ "function" :: "class" :: statementWords := by decide
      simp only [Bool.or_false, Bool.not_eq_true', List.contains_eq_mem, decide_eq_false_iff_not]
      exact fun member => other (others keyword member)
    dsimp only
    rw [bind_of_some (atAsyncFunction_apply cursor), starts.noFunction,
      bind_of_some (require_eq_some.mpr ⟨allowed, rfl⟩ : _ = some ((), cursor)),
      bind_of_some starts.noLabel]
  · dsimp only
    rw [bind_of_some starts.noLabel]

theorem plainItem_of_starts (starts : StartsExpression cursor) :
    plainItem rules scriptWithin cursor = expressionStatement rules scriptWithin cursor := by
  have noDeclaration : declaration? rules scriptWithin cursor = some (none, cursor) := by
    have others : ∀ keyword ∈ ["var", "const", "function", "class"],
        keyword ∈ "function" :: "class" :: statementWords := by decide
    exact declaration?_eq_none.mpr ⟨rfl, starts.noLet, starts.noFunction,
      fun keyword isKeyword member => starts.noKeyword keyword isKeyword (others keyword member)⟩
  unfold plainItem
  rw [bind_of_some noDeclaration]
  exact plainStatement_of_starts starts

theorem label?_eq_none (read : label? scriptWithin cursor = some (none, after)) :
    after = cursor := by
  rcases attempt_eq_some read with ⟨_, same⟩ | ⟨_, same, _⟩
  · exact same
  · cases same

section Starts

variable (isExpression : tree.unplaced.form = .expressionStatement)

include isExpression

theorem noLabel_of_expression {found : Option String}
    (isLabel : label? scriptWithin cursor = some (found, next))
    (read : ∀ label, found = some label →
      labeled rules scriptWithin label next = some (tree, after)) :
    label? scriptWithin cursor = some (none, cursor) := by
  cases found with
  | some label =>
    exact absurd isExpression (noExpression_labeled label (.refl next) (read label rfl))
  | none => rwa [label?_eq_none isLabel] at isLabel

/-- Where an expression was read for a statement, nothing else starts but perhaps a declaration. -/
theorem starts_of_plainStatement (noLet : cursor.atLet = false)
    (noFunction : cursor.atAsyncFunction = false)
    (read : plainStatement rules scriptWithin cursor = some (tree, after)) :
    StartsExpression cursor := by
  have here := Cursor.Reaches.refl cursor
  unfold plainStatement at read
  rw [bind_of_some (atMark_apply "\x7b" cursor)] at read
  split at read
  · exact absurd isExpression (noExpression_block here read)
  rename_i noBlock
  rw [bind_of_some (atMark_apply ";" cursor)] at read
  split at read
  · exact absurd isExpression (noExpression_emptyStatement here read)
  rename_i noSemicolon
  rw [bind_of_some (keyword?_apply cursor)] at read
  split at read
  · rename_i keyword isKeyword
    split at read
    · rename_i reader found
      exact absurd isExpression (noExpression_keywordStatement? found here read)
    rename_i noStatement
    dsimp only at read
    rw [bind_of_some (atAsyncFunction_apply cursor)] at read
    obtain ⟨_, _, required, read⟩ := bind_eq_some.mp read
    obtain ⟨allowed, same⟩ := require_eq_some.mp required
    rw [same] at read
    obtain ⟨_, _, isLabel, read⟩ := bind_eq_some.mp read
    refine ⟨noLet, mt beq_iff_eq.mpr noBlock, mt beq_iff_eq.mpr noSemicolon, ?_, noFunction,
      noLabel_of_expression isExpression isLabel fun label same => by rwa [same] at read⟩
    -- Of the keywords of declarations, only those that the statement allows are left.
    intro keyword' isKeyword' member
    obtain rfl : keyword = keyword' := Option.some.inj (isKeyword.symm.trans isKeyword')
    have notDeclared : keyword ≠ "const" ∧ keyword ≠ "class" ∧ keyword ≠ "function" := by
      simpa [noFunction] using allowed
    simp only [List.mem_cons, notDeclared, false_or] at member
    obtain ⟨reader, found⟩ := exists_keywordStatement member notDeclared.1
    exact noStatement reader found
  · rename_i noKeyword
    dsimp only at read
    obtain ⟨_, _, isLabel, read⟩ := bind_eq_some.mp read
    exact ⟨noLet, mt beq_iff_eq.mpr noBlock, mt beq_iff_eq.mpr noSemicolon,
      fun keyword isKeyword => (noKeyword keyword isKeyword).elim, noFunction,
      noLabel_of_expression isExpression isLabel fun label same => by rwa [same] at read⟩

/-- Where an expression was read for an item, nothing else starts. -/
theorem starts_of_plainItem (read : plainItem rules scriptWithin cursor = some (tree, after)) :
    StartsExpression cursor := by
  unfold plainItem at read
  obtain ⟨tree?, _, declared, read⟩ := bind_eq_some.mp read
  cases tree? with
  | some tree' =>
    cases read
    exact absurd isExpression (noExpression_declaration? rfl (.refl cursor) declared tree rfl)
  | none =>
    obtain ⟨same, noLet, noFunction, _⟩ := declaration?_eq_none.mp declared
    rw [same] at read
    exact starts_of_plainStatement isExpression noLet noFunction read

end Starts

theorem atLet_of_atLetBracket (isLet : keywordOf? cursor.rest = some "let")
    (atBracket : cursor.atLetBracket = true) : cursor.atLet = true := by
  obtain ⟨word, next, isWord, _, isBracket⟩ := Cursor.atLetBracket_eq_true.mp atBracket
  exact atLet_eq_true.mpr ⟨next, expectWord_of_anyWord isLet isWord, .inl isBracket⟩

theorem opening_of_starts (starts : StartsExpression cursor) : cursor.opening = .plain ∨
    cursor.opening = .letBracket ∧ keywordOf? cursor.rest ≠ some "let" := by
  rw [Cursor.opening_of_noStatement starts.noBlock starts.noSemicolon fun keyword isKeyword =>
    ⟨starts.noKeyword keyword isKeyword, starts.noFunction⟩]
  split
  · rename_i atBracket
    refine .inr ⟨rfl, fun isLet => ?_⟩
    exact Bool.false_ne_true (starts.noLet.symm.trans (atLet_of_atLetBracket isLet atBracket))
  · exact .inl rfl

section Plain

variable {depth : Nat} (plain : cursor.opening = .plain)

include plain

theorem noFunction_of_plain : cursor.atAsyncFunction = false := by
  rw [← Bool.not_eq_true]
  intro isAsync
  have isKeyword := Cursor.keyword_of_atAsyncFunction isAsync
  rw [Cursor.opening_of_keyword isKeyword, if_pos (.inr isAsync)] at plain
  cases plain

theorem noKeyword_of_plain {keyword : String} (isKeyword : keywordOf? cursor.rest = some keyword) :
    keyword ∉ "function" :: "class" :: statementWords := by
  intro member
  rw [Cursor.opening_of_keyword isKeyword] at plain
  split at plain
  · cases plain
  rename_i noFunction
  split at plain
  · cases plain
  rename_i noClass
  split at plain
  · cases plain
  rename_i noStatement
  simp only [List.mem_cons] at member
  rcases member with rfl | rfl | isStatement
  · exact noFunction (.inl rfl)
  · exact noClass rfl
  · exact noStatement (List.contains_iff_mem.mpr isStatement)

variable (read : expressionStatement (rulesOf (depth + 4)) scriptWithin cursor = some (tree, after))
  (done : after.rest = [])

include read done

/-- A declaration with `let` would need more than the variable that the expression is. -/
theorem noLet_of_plain : cursor.atLet = false := by
  rw [← Bool.not_eq_true]
  intro atLet
  obtain ⟨next, isLet, follows⟩ := atLet_eq_true.mp atLet
  have isKeyword := (expectWord_eq_some.mp isLet).1
  obtain ⟨word, isWord, same⟩ := anyWord_of_expectWord isLet
  have lone (stops : Stops next) : LoneVariable cursor word next :=
    ⟨isWord, by rw [same]; decide, stops, fun isAsync => by
      rw [isKeyword] at isAsync
      exact absurd isAsync (by decide)⟩
  rcases follows with isBracket | isBrace | ⟨word', isWord', other⟩
  · have atBracket : cursor.atLetBracket = true :=
      Cursor.atLetBracket_eq_true.mpr ⟨word, next, isWord, same, isBracket⟩
    have noFunction := noFunction_of_plain plain
    rw [Cursor.opening_of_keyword isKeyword, noFunction, atBracket] at plain
    exact absurd plain (by decide)
  · exact (lone (stops_of_mark isBrace (by decide))).going read done
  · have noOperator : word'.text ∉ ["in", "instanceof"] := fun member =>
      other (List.mem_append_left ["of"] member)
    exact (lone (stops_of_word isWord' noOperator)).going read done

omit plain in
theorem noLabel_of_read : label? scriptWithin cursor = some (none, cursor) := by
  refine attempt_of_none (Option.eq_none_iff_forall_ne_some.mpr fun found isLabel => ?_)
  obtain ⟨label, after⟩ := found
  obtain ⟨_, next, isName, isLabel⟩ := bind_eq_some.mp isLabel
  obtain ⟨_, _, isColon, _⟩ := bind_eq_some.mp isLabel
  have isMark := (expect_eq_some.mp isColon).1
  obtain ⟨word, isWord, rfl, isName⟩ := variableName_eq_some.mp isName
  have lone : LoneVariable cursor word next :=
    ⟨isWord, isName, stops_of_mark isMark (by decide), fun _ => wordOf?_of_mark isMark⟩
  exact lone.going read done

/-- What opens plainly and is the whole text is an expression. -/
theorem starts_of_opening : StartsExpression cursor where
  noLet := noLet_of_plain plain read done
  noBlock := mt markOf?_eq_brace.mp fun starts => by
    rw [Cursor.opening, if_pos starts] at plain
    cases plain
  noSemicolon := mt markOf?_eq_semicolon.mp fun starts => by
    have noBrace : cursor.rest.head? ≠ some '{' := by
      rw [starts]
      decide
    rw [Cursor.opening, if_neg noBrace, if_pos starts] at plain
    cases plain
  noKeyword := fun _ => noKeyword_of_plain plain
  noFunction := noFunction_of_plain plain
  noLabel := noLabel_of_read read done

end Plain

end Grammar

end CssInline.Code
