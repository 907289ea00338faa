import CssInline.Proofs.Enclosed.Expression

/-! Statements of a text in parentheses. -/

namespace CssInline.Code.Grammar

open Reader

section Rules

variable {limit : Nat} {rules rules' : Rules} [Agreeing limit rules rules'] {within : Within}
  [within.Plain]

theorem agree_withComments {reserve : Nat} {reader reader' : Reader Tree}
    (agree : Agree limit True reserve reader reader') :
    Agree limit True reserve (withComments reader) (withComments reader') := fun cursor enough => by
  have whole : Agree limit True reserve
      (do
        let tree ← reader
        return if cursor.comments.isEmpty then tree
          else .node (.commented cursor.comments) [tree])
      (do
        let tree ← reader'
        return if cursor.comments.isEmpty then tree
          else .node (.commented cursor.comments) [tree]) :=
    .bind agree fun tree => agree_pure _
  change Meets True _ ((do
      let tree ← reader'
      return if cursor.enclosed.comments.isEmpty then tree
        else .node (.commented cursor.enclosed.comments) [tree]) cursor.enclosed)
  rw [cursor.comments_enclosed]
  exact whole cursor enough

/-! Variables -/

@[simp] theorem agree_declarator :
    Agree limit True 16 (declarator rules within) (declarator rules' within) := by
  unfold declarator
  repeat' first | with_reducible refine Agree.bind ?_ fun _ => ?_ | split | simp_all

omit [Agreeing limit rules rules'] in
theorem takes_declarator [Taking rules] : (declarator rules within).Takes :=
  .first takes_rule

@[simp] theorem agree_declarators [Taking rules] {reserve : Nat} (keyword : String) :
    Agree limit True reserve (declarators rules within keyword)
      (declarators rules' within keyword) := by
  unfold declarators
  refine .after (takes_expectWord _) (agree_expectWord _) fun _ => ?_
  exact .bind (agree_separated agree_declarator takes_declarator (by decide)) fun _ => agree_pure _

@[simp] theorem agree_variableStatement [Taking rules] {reserve : Nat} (keyword : String) :
    Agree limit True reserve (variableStatement rules within keyword)
      (variableStatement rules' within keyword) := by
  unfold variableStatement
  repeat' first | with_reducible refine Agree.bind ?_ fun _ => ?_ | split | simp_all

@[simp] theorem agree_atLet {reserve : Nat} {mayClose : Prop} :
    Agree limit mayClose reserve atLet atLet := by
  unfold atLet
  refine .bind (.ahead ?_) fun _ => agree_pure _
  repeat' first | with_reducible refine Agree.bind ?_ fun _ => ?_ | split | simp_all

@[simp] theorem agree_variableKeyword? {reserve : Nat} {mayClose : Prop} :
    Agree limit mayClose reserve variableKeyword? variableKeyword? := by
  unfold variableKeyword?
  repeat' first | with_reducible refine Agree.bind ?_ fun _ => ?_ | split | simp_all

/-! Simple statements -/

@[simp] theorem agree_block [Taking rules] {reserve : Nat} :
    Agree limit True reserve (block rules within) (block rules' within) := by
  unfold block
  refine .after (takes_expect _) (agree_expect (by decide)) fun _ => ?_
  exact .bind (agree_listUntil agree_rule takes_rule (by decide)) fun _ => agree_pure _

@[simp] theorem agree_condition {reserve : Nat} :
    Agree limit True reserve (condition rules within) (condition rules' within) := by
  unfold condition
  refine .after (takes_expect _) (agree_expect (by decide)) fun _ => ?_
  repeat' first | with_reducible refine Agree.bind ?_ fun _ => ?_ | split | simp_all

theorem agree_expressionStatement :
    Agree limit True 4 (expressionStatement rules within) (expressionStatement rules' within) :=
  .bind (Agreeing.agree .expression within) fun _ => .bind agree_semicolon fun _ => agree_pure _

@[simp] theorem agree_atStatementEnd {reserve : Nat} {mayClose : Prop} :
    Agree limit mayClose reserve atStatementEnd atStatementEnd :=
  agree_here (f := fun cursor => cursor.rest.isEmpty || cursor.afterBreak ||
      markOf? cursor.rest == some ";" || markOf? cursor.rest == some "\x7d") fun cursor => by
    simp only [Cursor.ends_enclosed, isMark_enclosed (by decide : ";" ≠ ")"),
      isMark_enclosed (by decide : "\x7d" ≠ ")")]

@[simp] theorem agree_returnStatement {reserve : Nat} :
    Agree limit True reserve (returnStatement rules within) (returnStatement rules' within) := by
  unfold returnStatement
  refine .after (takes_expectWord _) (agree_expectWord _) fun _ => ?_
  repeat' first | with_reducible refine Agree.bind ?_ fun _ => ?_ | split | simp_all

@[simp] theorem agree_throwStatement [Taking rules] {reserve : Nat} :
    Agree limit True reserve (throwStatement rules within) (throwStatement rules' within) := by
  unfold throwStatement
  refine .after (takes_expectWord _) (agree_expectWord _) fun _ => .sameLine (.first takes_rule) ?_
  repeat' first | with_reducible refine Agree.bind ?_ fun _ => ?_ | split | simp_all

omit [within.Plain] in
theorem atVariableName_apply (cursor : Cursor) : atVariableName within cursor =
    some ((wordOf? cursor.rest).any fun word => isVariableName within word.text, cursor) := by
  unfold atVariableName
  rw [bind_of_some (word?_apply cursor)]
  cases wordOf? cursor.rest <;> rfl

/-- Whether a label may follow on the same line. -/
def atLabel (within : Within) : Reader Bool := do
  return !(← afterBreak) && (← atVariableName within)

theorem agree_atLabel {reserve : Nat} {mayClose : Prop} (within : Within) :
    Agree limit mayClose reserve (atLabel within) (atLabel within) := by
  have same : atLabel within = (do
      let cursor ← here
      return !cursor.afterBreak &&
        (wordOf? cursor.rest).any fun word => isVariableName within word.text) := by
    ext1
    funext cursor
    change (atVariableName within >>= fun isName => pure (!cursor.afterBreak && isName)) cursor = _
    exact bind_of_some (atVariableName_apply cursor)
  rw [same]
  refine agree_here fun cursor => ?_
  rw [wordOf?_enclosed]
  by_cases ended : cursor.rest = []
  · have noWord : wordOf? [] = none := rfl
    rw [ended, noWord, Option.any_none, Bool.and_false, Bool.and_false]
  · rw [Cursor.enclosed_of_inside ended]
    rfl

@[simp] theorem agree_jump {reserve : Nat} {mayClose : Prop} (within : Within) (keyword : String)
    (isAllowed : Bool) :
    Agree limit mayClose reserve (jump within keyword isAllowed)
      (jump within keyword isAllowed) := by
  have rest : Agree limit mayClose reserve
      (do
        let label ← if ← atLabel within then some <$> variableName within else pure none
        require (label.all within.labels.contains)
        semicolon
        return label : Reader (Option String))
      (do
        let label ← if ← atLabel within then some <$> variableName within else pure none
        require (label.all within.labels.contains)
        semicolon
        return label) := by
    refine .bind (agree_atLabel within) fun follows => ?_
    repeat' first | with_reducible refine Agree.bind ?_ fun _ => ?_ | split | simp_all
  simp only [atLabel, bind_assoc, pure_bind] at rest
  exact .bind (agree_expectWord _) fun _ => .bind (agree_require _) fun _ => rest

/-! Branches -/

@[simp] theorem agree_ifStatement {reserve : Nat} :
    Agree limit True reserve (ifStatement rules within) (ifStatement rules' within) := by
  unfold ifStatement
  refine .after (takes_expectWord _) (agree_expectWord _) fun _ => ?_
  repeat' first | with_reducible refine Agree.bind ?_ fun _ => ?_ | split | simp_all

@[simp] theorem agree_atCaseEnd {reserve : Nat} {mayClose : Prop} :
    Agree limit mayClose reserve atCaseEnd atCaseEnd := by
  unfold atCaseEnd
  repeat' first | with_reducible refine Agree.bind ?_ fun _ => ?_ | split | simp_all

@[simp] theorem agree_caseClause [Taking rules] :
    Agree limit True 16 (caseClause rules within) (caseClause rules' within) := by
  unfold caseClause
  have statements : Agree limit True 16
      (Reader.iterate (fun done => (do
        if ← atCaseEnd then return .inr done.reverse
        return .inl ((← rules .item within) :: done) : Reader (List Tree ⊕ List Tree))) [])
      (Reader.iterate (fun done => do
        if ← atCaseEnd then return .inr done.reverse
        return .inl ((← rules' .item within) :: done)) []) := by
    refine .iterate (fun done => ?_) (fun done => .later fun ended => ?_) []
    · repeat' first | with_reducible refine Agree.bind ?_ fun _ => ?_ | split | simp_all
    · split
      · exact takesIf_pure Bool.noConfusion
      · exact .first takes_rule
  repeat' first | with_reducible refine Agree.bind ?_ fun _ => ?_ | split | simp_all

theorem takes_caseClause (rules : Rules) (within : Within) : (caseClause rules within).Takes := by
  refine .firstIf (takesIf_acceptWord _) fun isDefault noDefault => ?_
  rw [if_neg noDefault]
  exact .first (takes_expectWord _)

@[simp] theorem agree_switchStatement [Taking rules] {reserve : Nat} :
    Agree limit True reserve (switchStatement rules within) (switchStatement rules' within) := by
  unfold switchStatement
  refine .after (takes_expectWord _) (agree_expectWord _) fun _ => .bind agree_condition fun _ => ?_
  refine .bind (agree_expect (by decide)) fun _ => ?_
  refine .bind (agree_listUntil agree_caseClause (takes_caseClause rules _) (by decide)) fun _ => ?_
  repeat' first | with_reducible refine Agree.bind ?_ fun _ => ?_ | split | simp_all

@[simp] theorem agree_catchClause [Taking rules] :
    Agree limit True 16 (catchClause rules within) (catchClause rules' within) := by
  unfold catchClause
  repeat' first | with_reducible refine Agree.bind ?_ fun _ => ?_ | split | simp_all

@[simp] theorem agree_tryStatement [Taking rules] {reserve : Nat} :
    Agree limit True reserve (tryStatement rules within) (tryStatement rules' within) := by
  unfold tryStatement
  refine .after (takes_expectWord _) (agree_expectWord _) fun _ => ?_
  repeat' first | with_reducible refine Agree.bind ?_ fun _ => ?_ | split | simp_all

/-! Loops -/

@[simp] theorem agree_whileLoop {reserve : Nat} :
    Agree limit True reserve (whileLoop rules within) (whileLoop rules' within) := by
  unfold whileLoop
  refine .after (takes_expectWord _) (agree_expectWord _) fun _ => ?_
  repeat' first | with_reducible refine Agree.bind ?_ fun _ => ?_ | split | simp_all

@[simp] theorem agree_doWhile {reserve : Nat} :
    Agree limit True reserve (doWhile rules within) (doWhile rules' within) := by
  unfold doWhile
  refine .after (takes_expectWord _) (agree_expectWord _) fun _ => ?_
  repeat' first | with_reducible refine Agree.bind ?_ fun _ => ?_ | split | simp_all

@[simp] theorem agree_loopHead [Taking rules] :
    Agree limit True 16 (loopHead rules within) (loopHead rules' within) := by
  unfold loopHead
  repeat' first | with_reducible refine Agree.bind ?_ fun _ => ?_ | split | simp_all

@[simp] theorem agree_loopBody :
    Agree limit True 16 (loopBody rules within) (loopBody rules' within) := by
  unfold loopBody
  repeat' first | with_reducible refine Agree.bind ?_ fun _ => ?_ | split | simp_all

@[simp] theorem agree_forOf (isAwait : Bool) (head : Tree) :
    Agree limit True 16 (forOf rules within isAwait head) (forOf rules' within isAwait head) := by
  unfold forOf
  repeat' first | with_reducible refine Agree.bind ?_ fun _ => ?_ | split | simp_all

@[simp] theorem agree_forIn (head : Tree) :
    Agree limit True 16 (forIn rules within head) (forIn rules' within head) := by
  unfold forIn
  repeat' first | with_reducible refine Agree.bind ?_ fun _ => ?_ | split | simp_all

@[simp] theorem agree_optionalUntil {closing : String} (other : closing ≠ ")") :
    Agree limit True 16 (optionalUntil rules within closing)
      (optionalUntil rules' within closing) := by
  unfold optionalUntil
  repeat' first | with_reducible refine Agree.bind ?_ fun _ => ?_ | split | simp_all

omit [within.Plain] in
theorem optionalUntil_apply (rules : Rules) (closing : String) (cursor : Cursor) :
    optionalUntil rules within closing cursor =
      if markOf? cursor.rest = some closing then some (.absent, cursor)
      else rules .expression within cursor := by
  unfold optionalUntil
  rw [bind_of_some (atMark_apply closing cursor)]
  by_cases isMark : markOf? cursor.rest = some closing
  · rw [if_pos isMark, isMark, beq_self_eq_true]
    rfl
  · rw [if_neg isMark, beq_eq_false_iff_ne.mpr isMark]
    rfl

/-- The last part of a loop head, and the parenthesis after it. -/
theorem agree_loopEnd [Taking rules] {next next' : Tree → Reader α}
    (agree : ∀ update, Agree limit True 16 (expect ")" >>= fun _ => next update)
      (expect ")" >>= fun _ => next' update)) :
    Agree limit True 16
      (optionalUntil rules within ")" >>= fun update => expect ")" >>= fun _ => next update)
      (optionalUntil rules' within ")" >>= fun update => expect ")" >>= fun _ => next' update) :=
  fun cursor enough => by
    by_cases ended : cursor.rest = []
    · have noMark : markOf? cursor.rest ≠ some ")" := by
        rw [ended]
        decide
      refine meets_ended ended ?_ fun read => ?_
      · rw [bind_apply, optionalUntil_apply, if_neg noMark, takes_rule.ended ended]
        rfl
      · obtain ⟨update, middle, first, rest⟩ := bind_eq_some.mp read
        have shorter : Takes (expect ")" >>= fun _ => next' update) := .first (takes_expect _)
        exact Nat.lt_of_lt_of_le (shorter rest trivial) (length_le first)
    · have same : markOf? cursor.enclosed.rest = markOf? cursor.rest := by
        rw [markOf?_enclosed, if_neg ended]
      have update : Meets True (optionalUntil rules within ")" cursor)
          (optionalUntil rules' within ")" cursor.enclosed) := by
        rw [optionalUntil_apply, optionalUntil_apply, same]
        split
        · exact .read _ cursor
        · exact agree_rule cursor enough
      exact update.bind fun tree after read => agree tree after (by have := length_le read; omega)

@[simp] theorem agree_forLoop [Taking rules] (head : Tree) :
    Agree limit True 16 (forLoop rules within head) (forLoop rules' within head) := by
  simp only [forLoop, loopBody, bind_assoc]
  refine .bind (agree_require _) fun _ => .bind (agree_expect (by decide)) fun _ =>
    .bind (agree_optionalUntil (by decide)) fun test =>
      .bind (agree_expect (by decide)) fun _ => agree_loopEnd fun update => ?_
  exact .bind agree_expectParen fun _ => .bind agree_rule fun _ => agree_pure _

@[simp] theorem agree_forStatement [Taking rules] {reserve : Nat} :
    Agree limit True reserve (forStatement rules within) (forStatement rules' within) := by
  unfold forStatement
  refine .after (takes_expectWord _) (agree_expectWord _) fun _ => ?_
  repeat' first | with_reducible refine Agree.bind ?_ fun _ => ?_ | split | simp_all

/-! All statements -/

@[simp] theorem agree_withStatement {reserve : Nat} :
    Agree limit True reserve (withStatement rules within) (withStatement rules' within) := by
  unfold withStatement
  refine .after (takes_expectWord _) (agree_expectWord _) fun _ => ?_
  repeat' first | with_reducible refine Agree.bind ?_ fun _ => ?_ | split | simp_all

@[simp] theorem agree_label? {reserve : Nat} {mayClose : Prop} (within : Within) :
    Agree limit mayClose reserve (label? within) (label? within) :=
  .attempt (.bind (agree_variableName within) fun _ => .bind (agree_expect (by decide)) fun _ =>
    agree_pure _)

theorem takesIf_label? (within : Within) : (label? within).TakesIf fun label? => label?.isSome :=
  takesIf_attempt (.first (takes_variableName within))

@[simp] theorem agree_labeled (label : String) :
    Agree limit True 16 (labeled rules within label) (labeled rules' within label) := by
  unfold labeled
  repeat' first | with_reducible refine Agree.bind ?_ fun _ => ?_ | split | simp_all

@[simp] theorem agree_emptyStatement {reserve : Nat} {mayClose : Prop} :
    Agree limit mayClose reserve emptyStatement emptyStatement :=
  .bind (agree_expect (by decide)) fun _ => agree_pure _

@[simp] theorem agree_debugger {reserve : Nat} {mayClose : Prop} :
    Agree limit mayClose reserve debugger debugger :=
  .bind (agree_expectWord _) fun _ => .bind agree_semicolon fun _ => agree_pure _

theorem agree_keywordStatement? [Taking rules] {reserve : Nat} (word : String) :
    Option.Rel (Agree limit True reserve) (keywordStatement? rules within word)
      (keywordStatement? rules' within word) := by
  unfold keywordStatement?
  split
  all_goals first
    | exact .none
    | refine .some ?_
  all_goals simp

omit [Agreeing limit rules rules'] [within.Plain] in
theorem takes_keywordStatement? {word : String} {reader : Reader Tree}
    (found : keywordStatement? rules within word = some reader) : reader.Takes := by
  have first {next : Unit → Reader Tree} (keyword : String) :
      (expectWord keyword >>= next).Takes := .first (takes_expectWord keyword)
  unfold keywordStatement? at found
  split at found <;> cases found
  case h_1 => exact .first (first _)
  case h_12 => exact .first (.first (takes_expectWord _))
  case h_13 => exact .first (.first (takes_expectWord _))
  all_goals exact first _

/-- A statement that no keyword starts. -/
theorem agree_freeStatement :
    Agree limit True 4
      (do
        if let some label ← label? within then return ← labeled rules within label
        expressionStatement rules within)
      (do
        if let some label ← label? within then return ← labeled rules' within label
        expressionStatement rules' within) := by
  refine .afterIf (takesIf_label? within) (agree_label? within) (fun label? found => ?_)
    fun label? none => ?_
  · obtain ⟨label, rfl⟩ := Option.isSome_iff_exists.mp found
    exact agree_labeled label
  · obtain rfl := Option.not_isSome_iff_eq_none.mp none
    exact agree_expressionStatement

theorem agree_plainStatement [Taking rules] :
    Agree limit True 4 (plainStatement rules within) (plainStatement rules' within) := by
  unfold plainStatement
  refine .bind (agree_atMark (by decide)) fun isBlock => ?_
  split
  · exact agree_block
  refine .bind (agree_atMark (by decide)) fun isEmpty => ?_
  split
  · exact agree_emptyStatement
  refine .bind agree_keyword? fun keyword? => ?_
  cases keyword? with
  | none => exact agree_freeStatement
  | some word =>
    dsimp only
    have related : Option.Rel (Agree limit True 4) (keywordStatement? rules within word)
      (keywordStatement? rules' within word) := agree_keywordStatement? word
    generalize keywordStatement? rules within word = reader?,
      keywordStatement? rules' within word = reader?' at related
    cases related with
    | some agree => exact agree
    | none =>
      exact .bind agree_atAsyncFunction fun _ => .bind (agree_require _) fun _ =>
        agree_freeStatement

theorem agree_statement [Taking rules] :
    Agree limit True 4 (statement rules within) (statement rules' within) :=
  agree_withComments agree_plainStatement

/-! Declarations -/

@[simp] theorem agree_declaration? [Taking rules] {reserve : Nat} :
    Agree limit True reserve (declaration? rules within) (declaration? rules' within) := by
  simp only [declaration?, Within.Plain.types_eq, Bool.false_eq_true, if_false, functionDeclaration,
    classDeclaration]
  repeat' first | with_reducible refine Agree.bind ?_ fun _ => ?_ | split | simp_all

theorem agree_item [Taking rules] :
    Agree limit True 4 (item rules within) (item rules' within) := by
  refine agree_withComments (.bind agree_declaration? fun declared? => ?_)
  cases declared? with
  | some tree => exact agree_pure tree
  | none => exact agree_plainStatement

end Rules

end CssInline.Code.Grammar
