import CssInline.Proofs.Enclosed.Statement

/-! All rules take something, and deep enough ones read the same of a text and of the text in
parentheses. -/

namespace CssInline.Code

namespace Reader

theorem takes_iterate {step : α → Reader (α ⊕ β)} (takes : ∀ state, (step state).Takes)
    (state : α) : (iterate step state).Takes := by
  intro cursor result after read _
  rcases iterate_eq_some read with done | ⟨next, middle, fuel, first, rest⟩
  · exact takes state done trivial
  · exact Nat.lt_of_le_of_lt (length_le rest) (takes state first trivial)

end Reader

namespace Grammar

open Reader

/-! What rules take -/

section Taking

variable {rules : Rules} [Taking rules] {within : Within} [within.Plain]

theorem takes_binding (rules : Rules) (within : Within) : (binding rules within).Takes := by
  refine .firstIf (takesIf_accept _) fun isArray noArray => ?_
  rw [if_neg noArray]
  refine .firstIf (takesIf_accept _) fun isObject noObject => ?_
  rw [if_neg noObject]
  exact .first (takes_declaredName within)

theorem takes_unary : (unary rules within).Takes := by
  simp only [unary, Within.Plain.types_eq, Bool.false_and, onlyIf_false, pure_bind,
    Bool.false_eq_true, if_false]
  refine .firstIf (takesIf_acceptOneOf _) fun operator? none => ?_
  obtain rfl := Option.not_isSome_iff_eq_none.mp none
  refine .firstIf (takesIf_acceptOneOf _) fun operator? none => ?_
  obtain rfl := Option.not_isSome_iff_eq_none.mp none
  refine .firstIf (takesIf_onlyIf (takesIf_acceptWord _) _) fun awaits noAwait => ?_
  rw [if_neg noAwait]
  exact .first takes_rule

omit [Taking rules] in
theorem takesIf_arrow? : (arrow? rules within).TakesIf fun tree? => tree?.isSome := by
  rw [arrow?_eq]
  refine .firstIf (takesIf_attempt (takes_parametersHead _ _)) fun head? none => ?_
  obtain rfl := Option.not_isSome_iff_eq_none.mp none
  refine .later fun isAsync => ?_
  split
  · exact takesIf_pure Bool.noConfusion
  refine .firstIf (takesIf_attempt (takes_asyncHead _ _)) fun head? none => ?_
  obtain rfl := Option.not_isSome_iff_eq_none.mp none
  exact takesIf_pure Bool.noConfusion

theorem takes_assignment : (assignment rules within).Takes := by
  refine .later fun yields => ?_
  split
  · exact .first (takes_expectWord _)
  refine .firstIf takesIf_arrow? fun tree? none => ?_
  obtain rfl := Option.not_isSome_iff_eq_none.mp none
  exact .first (.first (.first takes_rule))

theorem takes_expression : (expression rules within).Takes :=
  .first (takes_iterate (fun _ => .first takes_rule) _)

theorem takes_freeStatement : (do
    if let some label ← label? within then return ← labeled rules within label
    expressionStatement rules within : Reader Tree).Takes := by
  refine .firstIf (takesIf_label? within) fun label? none => ?_
  obtain rfl := Option.not_isSome_iff_eq_none.mp none
  exact .first takes_rule

theorem takes_plainStatement : (plainStatement rules within).Takes := by
  refine .later fun isBlock => ?_
  split
  · exact .first (takes_expect _)
  refine .later fun isEmpty => ?_
  split
  · exact .first (takes_expect _)
  refine .later fun keyword? => ?_
  cases keyword? with
  | none => exact takes_freeStatement
  | some word =>
    dsimp only
    split
    · rename_i reader found
      exact takes_keywordStatement? found
    · exact .later fun _ => .later fun _ => takes_freeStatement

omit [Taking rules] in
theorem takesIf_declaration? : (declaration? rules within).TakesIf fun tree? => tree?.isSome := by
  simp only [declaration?, Within.Plain.types_eq, Bool.false_eq_true, if_false, functionDeclaration,
    classDeclaration]
  refine .later fun keyword? => ?_
  split
  · exact .first (.first (.first (takes_expectWord _)))
  refine .later fun isFunction => .later fun isAsync => ?_
  split
  · exact .first (.first (takes_functionTree _ _ _ _))
  refine .later fun isClass => ?_
  split
  · exact .first (.first (.first (takes_expectWord _)))
  · exact takesIf_pure Bool.noConfusion

theorem takes_item : (item rules within).Takes := by
  refine .later fun _ => .first (.firstIf takesIf_declaration? fun tree? none => ?_)
  obtain rfl := Option.not_isSome_iff_eq_none.mp none
  exact takes_plainStatement

theorem takes_produce (goal : Goal) [isCode : goal.IsCode] : (produce rules goal within).Takes :=
  match goal, isCode with
  | .item, _ => takes_item
  | .statement, _ => .later fun _ => .first takes_plainStatement
  | .expression, _ => takes_expression
  | .assignment, _ => takes_assignment
  | .unary, _ => takes_unary
  | .operand, _ => takes_access true
  | .callee, _ => takes_access false
  | .binding, _ => takes_binding rules within
  | .type, isCode => absurd rfl isCode.isCode.1
  | .element, isCode => absurd rfl isCode.isCode.2

end Taking

instance taking_rulesOf (depth : Nat) : Taking (rulesOf depth) := by
  induction depth with
  | zero => exact ⟨fun _ _ _ _ => takesIf_fail⟩
  | succ depth ih => exact ⟨fun goal _ _ _ => takes_produce goal⟩

/-! What rules agree on -/

section Agreeing

variable {limit : Nat} {rules rules' : Rules} [Agreeing limit rules rules'] [Taking rules]
  {within : Within} [within.Plain]

theorem agree_produce (goal : Goal) [isCode : goal.IsCode] :
    Agree limit True goal.rank (produce rules goal within) (produce rules' goal within) :=
  match goal, isCode with
  | .item, _ => agree_item
  | .statement, _ => agree_statement
  | .expression, _ => agree_expression
  | .assignment, _ => agree_assignment
  | .unary, _ => agree_unary
  | .operand, _ => agree_access true
  | .callee, _ => agree_access false
  | .binding, _ => agree_binding
  | .type, isCode => absurd rfl isCode.isCode.1
  | .element, isCode => absurd rfl isCode.isCode.2

end Agreeing

/-- Rules read the same of a text and of the text in parentheses if both are deep enough for it. -/
theorem agreeing_rulesOf {limit depth depth' : Nat} (deep : limit ≤ depth)
    (deep' : limit ≤ depth') : Agreeing limit (rulesOf depth) (rulesOf depth') := by
  induction limit generalizing depth depth' with
  | zero => exact ⟨fun goal _ _ _ cursor enough => by omega⟩
  | succ limit ih =>
    obtain ⟨depth, rfl⟩ := Nat.exists_eq_succ_of_ne_zero (Nat.ne_zero_of_lt deep)
    obtain ⟨depth', rfl⟩ := Nat.exists_eq_succ_of_ne_zero (Nat.ne_zero_of_lt deep')
    have := ih (Nat.le_of_succ_le_succ deep) (Nat.le_of_succ_le_succ deep')
    refine ⟨fun goal _ within _ cursor enough => ?_⟩
    have agree : Agree limit True goal.rank (produce (rulesOf depth) goal within)
      (produce (rulesOf depth') goal within) := agree_produce goal
    exact agree cursor (Nat.le_of_succ_le_succ enough)

/-! How deep rules must be -/

/-- Rules of this depth read all that is left of the text. -/
def Deep (depth : Nat) (cursor : Cursor) : Prop :=
  16 * cursor.rest.length + 16 ≤ depth

theorem Deep.agreeing {depth depth' : Nat} {cursor : Cursor} (deep : Deep depth cursor)
    (deep' : Deep depth' cursor) :
    Agreeing (16 * cursor.rest.length + 16) (rulesOf depth) (rulesOf depth') :=
  agreeing_rulesOf deep deep'

/-- Of rules that are deep enough, more depth makes no difference. -/
theorem exists_of_deep (read : Rules → Reader α) {cursor after : Cursor} {value : α}
    (agree : ∀ limit rules rules' [Agreeing limit rules rules'],
      Agree limit True 16 (read rules) (read rules'))
    {depth depth' : Nat} (deep : Deep depth cursor) (deep' : Deep depth' cursor)
    (found : read (rulesOf depth) cursor = some (value, after)) :
    ∃ after', read (rulesOf depth') cursor = some (value, after') ∧
      after'.enclosed = after.enclosed := by
  have := deep.agreeing deep
  have := deep'.agreeing deep
  have meets := agree _ (rulesOf depth) (rulesOf depth) cursor (Nat.le_refl _)
  have meets' := agree _ (rulesOf depth') (rulesOf depth) cursor (Nat.le_refl _)
  rw [found] at meets
  generalize read (rulesOf depth) cursor.enclosed = wrapped at meets meets'
  cases meets with
  | read =>
    generalize read (rulesOf depth') cursor = found' at meets'
    generalize same : after.enclosed = enclosed at meets'
    cases meets' with
    | read _ after' => exact ⟨after', rfl, rfl⟩
    | closed _ ended => exact absurd ended (same ▸ after.rest_enclosed_ne_nil)

theorem eq_some_of_deep (read : Rules → Reader α) {cursor after : Cursor} {value : α}
    (agree : ∀ limit rules rules' [Agreeing limit rules rules'],
      Agree limit True 16 (read rules) (read rules'))
    {depth depth' : Nat} (deep : Deep depth cursor) (deep' : Deep depth' cursor)
    (found : read (rulesOf depth) cursor = some (value, after)) (inside : after.rest ≠ []) :
    read (rulesOf depth') cursor = some (value, after) := by
  obtain ⟨after', found', same⟩ := exists_of_deep read agree deep deep' found
  rw [found', Cursor.eq_of_enclosed_eq inside same]

theorem rule_eq_some_of_deep {goal : Goal} [goal.IsCode] {within : Within} [within.Plain]
    {cursor after : Cursor} {tree : Tree} {depth depth' : Nat} (deep : Deep depth cursor)
    (deep' : Deep depth' cursor)
    (read : rulesOf depth goal within cursor = some (tree, after)) (inside : after.rest ≠ []) :
    rulesOf depth' goal within cursor = some (tree, after) :=
  eq_some_of_deep (fun rules => rules goal within) (fun _ _ _ _ => agree_rule) deep deep' read
    inside

end Grammar

end CssInline.Code
