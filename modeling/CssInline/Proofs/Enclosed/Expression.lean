import CssInline.Proofs.Enclosed.Primary

/-! Expressions with operators of a text in parentheses. -/

namespace CssInline.Code.Grammar

open Reader

/-! Operators -/

section Operators

variable {limit reserve : Nat} {mayClose : Prop}

theorem tokenOf?_enclosed (cursor : Cursor) : tokenOf? cursor.enclosed.rest =
    if cursor.rest = [] then some ")" else tokenOf? cursor.rest := by
  unfold tokenOf?
  rw [markOf?_enclosed, keywordOf?_enclosed]
  split <;> rfl

theorem length_of_tokenOf? {text : List Char} {token : String}
    (found : tokenOf? text = some token) :
    0 < token.length ∧ token.length ≤ text.length := by
  rcases Option.or_eq_some_iff.mp found with isMark | ⟨_, isKeyword⟩
  · exact length_of_markOf? isMark
  · exact length_of_keywordOf? isKeyword

theorem acceptOneOf_apply (tokens : List String) (cursor : Cursor) :
    acceptOneOf tokens cursor =
      match (tokenOf? cursor.rest).filter tokens.contains with
      | some token => (pass token.length cursor).map fun (_, after) => (some token, after)
      | none => some (none, cursor) := by
  unfold acceptOneOf
  rw [bind_of_some (token?_apply cursor)]
  cases tokenOf? cursor.rest with
  | none => rfl
  | some token =>
    dsimp only
    cases member : tokens.contains token with
    | false =>
      rw [Option.filter_some, member]
      rfl
    | true =>
      rw [Option.filter_some, member, if_pos rfl, if_pos rfl]
      dsimp only
      change (pass token.length >>= fun _ => pure (some token)) cursor = _
      rw [bind_apply]
      cases pass token.length cursor <;> rfl

theorem filter_tokenOf?_enclosed {holds : String → Bool} (noParen : holds ")" = false)
    (cursor : Cursor) : (tokenOf? cursor.enclosed.rest).filter holds =
      (tokenOf? cursor.rest).filter holds := by
  rw [tokenOf?_enclosed]
  split
  · rename_i ended
    rw [ended, Option.filter_some, noParen]
    rfl
  · rfl

theorem agree_acceptOneOf {tokens : List String} (noParen : tokens.contains ")" = false) :
    Agree limit mayClose reserve (acceptOneOf tokens) (acceptOneOf tokens) := fun cursor _ => by
  rw [acceptOneOf_apply, acceptOneOf_apply, filter_tokenOf?_enclosed noParen]
  split
  · rename_i token isToken
    obtain ⟨found, _⟩ := Option.filter_eq_some_iff.mp isToken
    obtain ⟨going, inside⟩ := length_of_tokenOf? found
    exact (meets_pass going inside).map fun _ => some token
  · exact .read none cursor

theorem takesIf_acceptOneOf (tokens : List String) :
    (acceptOneOf tokens).TakesIf fun token? => token?.isSome := by
  intro cursor token? after read isSome
  rw [acceptOneOf_apply] at read
  split at read
  · rename_i token isToken
    obtain ⟨found, _⟩ := Option.filter_eq_some_iff.mp isToken
    obtain ⟨going, inside⟩ := length_of_tokenOf? found
    obtain ⟨_, passed, same⟩ := Option.map_eq_some_iff.mp read
    cases same
    exact takes_pass going inside passed
  · cases read
    cases isSome

/-- Whether the token is an operator between operands. -/
def isOperator (within : Within) (token : String) : Bool :=
  !(token == "in" && !within.allowIn) && (precedence? token).isSome

theorem nextOperator?_apply (within : Within) (cursor : Cursor) : nextOperator? within cursor =
    some ((tokenOf? cursor.rest).filter (isOperator within), cursor) := by
  unfold nextOperator?
  rw [bind_of_some (token?_apply cursor)]
  cases tokenOf? cursor.rest with
  | none => rfl
  | some token =>
    rw [Option.filter_some, isOperator]
    dsimp only
    cases token == "in" && !within.allowIn with
    | true => rfl
    | false => cases (precedence? token).isSome <;> rfl

end Operators

section Rules

variable {limit : Nat} {rules rules' : Rules} [Agreeing limit rules rules'] {within : Within}
  [within.Plain]

/-! One operand -/

theorem agree_postfixed :
    Agree limit True 1 (postfixed rules within) (postfixed rules' within) := by
  unfold postfixed
  refine .bind (Agreeing.agree .operand within) fun operand => .unlessBreak ?_ fun ended => ?_
  · refine .bind (agree_acceptOneOf (by decide)) fun operator? => ?_
    repeat' first | with_reducible refine Agree.bind ?_ fun _ => ?_ | split | simp_all
  · rw [bind_apply, acceptOneOf_apply, ended]
    rfl

theorem agree_unary : Agree limit True 1 (unary rules within) (unary rules' within) := by
  simp only [unary, Within.Plain.types_eq, Bool.false_and, onlyIf_false, pure_bind,
    Bool.false_eq_true, if_false]
  refine .afterIf (takesIf_acceptOneOf _) (agree_acceptOneOf (by decide))
    (fun operator? found => ?_) fun operator? none => ?_
  · obtain ⟨operator, rfl⟩ := Option.isSome_iff_exists.mp found
    exact .bind agree_rule fun _ => .bind (agree_require _) fun _ => agree_pure _
  obtain rfl := Option.not_isSome_iff_eq_none.mp none
  refine .afterIf (takesIf_acceptOneOf _) (agree_acceptOneOf (by decide))
    (fun operator? found => ?_) fun operator? none => ?_
  · obtain ⟨operator, rfl⟩ := Option.isSome_iff_exists.mp found
    exact .bind agree_rule fun _ => .bind (agree_require _) fun _ => agree_pure _
  obtain rfl := Option.not_isSome_iff_eq_none.mp none
  refine .afterToken (.onlyIf _ (agree_acceptWord _)) (takesIf_onlyIf (takesIf_acceptWord _) _)
    (.bind agree_rule fun _ => agree_pure _) agree_postfixed

/-! Several operands -/

theorem nextCast?_plain : nextCast? within = pure none := by
  simp only [nextCast?, Within.Plain.types_eq]
  rfl

theorem operationStep_apply (rules : Rules) (done : List Operation) (cursor : Cursor) :
    operationStep rules within done cursor =
      match (tokenOf? cursor.rest).filter (isOperator within) with
      | none => some (.inr done.reverse, cursor)
      | some operator => (do
          pass operator.length
          return .inl (.binary operator (← rules .unary within) :: done) : Reader _) cursor := by
  unfold operationStep
  rw [nextCast?_plain, pure_bind]
  dsimp only
  rw [bind_of_some (nextOperator?_apply within cursor)]
  cases (tokenOf? cursor.rest).filter (isOperator within) <;> rfl

theorem agree_operationStep {reserve : Nat} (done : List Operation) :
    Agree limit True reserve (operationStep rules within done) (operationStep rules' within done) :=
  fun cursor enough => by
    have noParen : isOperator within ")" = false := by
      rw [isOperator, Bool.and_eq_false_iff]
      exact .inr rfl
    rw [operationStep_apply, operationStep_apply, filter_tokenOf?_enclosed noParen]
    split
    · exact .read _ cursor
    · rename_i operator isOperator
      obtain ⟨going, inside⟩ := length_of_tokenOf? (Option.filter_eq_some_iff.mp isOperator).1
      refine (meets_pass going inside).bind fun _ after passed => ?_
      have shorter := takes_pass going inside passed
      have operand : Agree limit True 16 (rules .unary within) (rules' .unary within) := agree_rule
      exact (operand after (by omega)).bind fun tree last _ => .read _ last

omit [Agreeing limit rules rules'] in
theorem takesIf_operationStep (done : List Operation) :
    (operationStep rules within done).TakesIf fun next => next.isLeft := by
  intro cursor next after read going
  rw [operationStep_apply] at read
  split at read
  · cases read
    cases going
  · rename_i operator isOperator
    obtain ⟨positive, inside⟩ := length_of_tokenOf? (Option.filter_eq_some_iff.mp isOperator).1
    obtain ⟨_, middle, passed, read⟩ := bind_eq_some.mp read
    exact Nat.lt_of_le_of_lt (length_le read) (takes_pass positive inside passed)

theorem agree_binary : Agree limit True 2 (binary rules within) (binary rules' within) := by
  unfold binary
  refine .bind (Agreeing.agree .unary within) fun first => ?_
  exact .bind (.iterate agree_operationStep takesIf_operationStep []) fun _ => agree_ofOption _

theorem agree_conditional :
    Agree limit True 2 (conditional rules within) (conditional rules' within) := by
  unfold conditional
  refine .bind agree_binary fun test =>
    .afterToken (agree_accept (by decide)) (takesIf_accept _) ?_ ?_
  · repeat' first | with_reducible refine Agree.bind ?_ fun _ => ?_ | split | simp_all
  · exact agree_pure _

/-! Assignments -/

/-- Whether no value can follow. -/
def valueEnds (cursor : Cursor) : Bool :=
  cursor.rest.isEmpty || cursor.afterBreak ||
    (markOf? cursor.rest).any fun mark => [")", "]", "\x7d", ",", ";", ":"].contains mark

theorem atValueEnd_apply (cursor : Cursor) :
    atValueEnd cursor = some (valueEnds cursor, cursor) := by
  unfold atValueEnd valueEnds
  rw [bind_of_some (rfl : atEnd cursor = some (cursor.rest.isEmpty, cursor)),
    bind_of_some (rfl : afterBreak cursor = some (cursor.afterBreak, cursor))]
  cases cursor.rest.isEmpty || cursor.afterBreak <;> rfl

theorem valueEnds_enclosed (cursor : Cursor) : valueEnds cursor.enclosed = valueEnds cursor := by
  unfold valueEnds
  rw [Cursor.ends_enclosed, markOf?_enclosed]
  split
  · rename_i ended
    rw [ended]
    rfl
  · rfl

@[simp] theorem agree_atValueEnd {reserve : Nat} {mayClose : Prop} :
    Agree limit mayClose reserve atValueEnd atValueEnd := fun cursor _ => by
  rw [atValueEnd_apply, atValueEnd_apply, valueEnds_enclosed]
  exact .read _ cursor

@[simp] theorem agree_yieldExpression {reserve : Nat} :
    Agree limit True reserve (yieldExpression rules within) (yieldExpression rules' within) := by
  unfold yieldExpression
  refine .after (takes_expectWord _) (agree_expectWord _) fun _ => ?_
  repeat' first | with_reducible refine Agree.bind ?_ fun _ => ?_ | split | simp_all

theorem agree_assignmentFrom (left : Tree) :
    Agree limit True 2 (assignmentFrom rules within left) (assignmentFrom rules' within left) := by
  unfold assignmentFrom
  refine .bind (agree_atMark (by decide)) fun assigns => ?_
  split
  · refine .bind (agree_ofOption _) fun target =>
      .after (takes_expect _) (agree_expect (by decide)) fun _ => ?_
    exact .bind agree_rule fun _ => agree_pure _
  refine .afterIf (takesIf_acceptOneOf _) (agree_acceptOneOf (by decide))
    (fun operator? found => ?_) fun operator? none => ?_
  · obtain ⟨operator, rfl⟩ := Option.isSome_iff_exists.mp found
    exact .bind (agree_ofOption _) fun _ => .bind agree_rule fun _ => agree_pure _
  · obtain rfl := Option.not_isSome_iff_eq_none.mp none
    exact agree_pure _

theorem agree_assignment [Taking rules] :
    Agree limit True 2 (assignment rules within) (assignment rules' within) := by
  unfold assignment
  refine .bind (agree_atWord _) fun yields => ?_
  split
  · exact agree_yieldExpression
  refine .bind agree_arrow? fun arrow? => ?_
  cases arrow? with
  | some tree => exact agree_pure tree
  | none => exact .bind agree_conditional agree_assignmentFrom

theorem agree_expression [Taking rules] :
    Agree limit True 3 (expression rules within) (expression rules' within) := by
  unfold expression
  refine .bind (agree_separated (Agreeing.agree .assignment within) takes_rule (by decide))
    fun trees => ?_
  split
  · exact agree_pure _
  · exact agree_pure _

end Rules

end CssInline.Code.Grammar
