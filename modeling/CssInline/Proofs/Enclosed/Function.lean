import CssInline.Proofs.Enclosed.Basic

/-! Patterns and functions of a text in parentheses. -/

namespace CssInline.Code.Grammar

open Reader

section Rules

variable {limit : Nat} {rules rules' : Rules} [Agreeing limit rules rules'] {within : Within}
  [within.Plain]

omit [Agreeing limit rules rules'] in
@[simp] theorem takes_rule [Taking rules] {goal : Goal} [goal.IsCode] :
    (rules goal within).Takes :=
  Taking.takes goal within

/-- After something is taken every rule can be used. -/
@[simp] theorem agree_rule {goal : Goal} [goal.IsCode] :
    Agree limit True 16 (rules goal within) (rules' goal within) :=
  (Agreeing.agree goal within).mono goal.rank_lt

@[simp] theorem annotation?_plain (rules : Rules) :
    annotation? rules within = pure .absent := by
  simp only [annotation?, Within.Plain.types_eq]
  rfl

@[simp] theorem typeParameters?_plain (rules : Rules) :
    typeParameters? rules within = pure .absent := by
  simp only [typeParameters?, Within.Plain.types_eq, Bool.false_and]
  rfl

/-! Patterns -/

@[simp] theorem agree_propertyKey :
    Agree limit True 16 (propertyKey rules within) (propertyKey rules' within) := by
  unfold propertyKey
  repeat' first | with_reducible refine Agree.bind ?_ fun _ => ?_ | split | simp_all

@[simp] theorem agree_withDefault {pattern pattern' : Reader Tree}
    (agree : Agree limit True 16 pattern pattern') :
    Agree limit True 16 (withDefault rules within pattern)
      (withDefault rules' within pattern') := by
  unfold withDefault
  repeat' first | with_reducible refine Agree.bind ?_ fun _ => ?_ | split | simp_all

@[simp] theorem agree_restPattern :
    Agree limit True 16 (restPattern rules within) (restPattern rules' within) := by
  unfold restPattern
  repeat' first | with_reducible refine Agree.bind ?_ fun _ => ?_ | split | simp_all

@[simp] theorem agree_arrayPatternStep (done : List Tree) :
    Agree limit True 16 (arrayPatternStep rules within done)
      (arrayPatternStep rules' within done) := by
  unfold arrayPatternStep
  repeat' first | with_reducible refine Agree.bind ?_ fun _ => ?_ | split | simp_all

@[simp] theorem agree_shorthandPattern :
    Agree limit True 16 (shorthandPattern rules within) (shorthandPattern rules' within) := by
  unfold shorthandPattern
  repeat' first | with_reducible refine Agree.bind ?_ fun _ => ?_ | split | simp_all

@[simp] theorem agree_propertyPattern :
    Agree limit True 16 (propertyPattern rules within) (propertyPattern rules' within) := by
  unfold propertyPattern
  have key : Agree limit False 16
      (do
        let key ← propertyKey rules within
        expect ":"
        return key)
      (do
        let key ← propertyKey rules' within
        expect ":"
        return key) :=
    .exactly agree_propertyKey (fun key => .bind (agree_expect (by decide)) fun _ => agree_pure key)
      fun key => Takes.ended (.first (takes_expect _))
  refine .bind key.attempt fun keyed? => ?_
  repeat' first | with_reducible refine Agree.bind ?_ fun _ => ?_ | split | simp_all

@[simp] theorem agree_objectPatternStep (done : List Tree) :
    Agree limit True 16 (objectPatternStep rules within done)
      (objectPatternStep rules' within done) := by
  unfold objectPatternStep
  repeat' first | with_reducible refine Agree.bind ?_ fun _ => ?_ | split | simp_all

theorem takesIf_arrayPatternStep (rules : Rules) (within : Within) (done : List Tree) :
    (arrayPatternStep rules within done).TakesIf fun next => next.isLeft := by
  unfold arrayPatternStep
  repeat' first
    | with_reducible refine TakesIf.firstIf (takesIf_accept _) fun _ _ => ?_
    | with_reducible refine TakesIf.later fun _ => ?_
    | split
    | simp_all

theorem takesIf_objectPatternStep (rules : Rules) (within : Within) (done : List Tree) :
    (objectPatternStep rules within done).TakesIf fun next => next.isLeft := by
  unfold objectPatternStep
  repeat' first
    | with_reducible refine TakesIf.firstIf (takesIf_accept _) fun _ _ => ?_
    | with_reducible refine TakesIf.later fun _ => ?_
    | split
    | simp_all

theorem agree_binding {reserve : Nat} :
    Agree limit True reserve (binding rules within) (binding rules' within) := by
  unfold binding
  have elements : Agree limit True 16 (Reader.iterate (arrayPatternStep rules within) [])
      (Reader.iterate (arrayPatternStep rules' within) []) :=
    .iterate agree_arrayPatternStep (takesIf_arrayPatternStep rules within) []
  have properties : Agree limit True 16 (Reader.iterate (objectPatternStep rules within) [])
      (Reader.iterate (objectPatternStep rules' within) []) :=
    .iterate agree_objectPatternStep (takesIf_objectPatternStep rules within) []
  refine .afterToken (agree_accept (by decide)) (takesIf_accept _) ?_ ?_
  · exact .bind elements fun _ => agree_pure _
  refine .afterToken (agree_accept (by decide)) (takesIf_accept _) ?_ ?_
  · exact .bind properties fun _ => agree_pure _
  · exact .bind (agree_declaredName within) fun _ => agree_pure _

@[simp] theorem agree_typedBinding :
    Agree limit True 16 (typedBinding rules within) (typedBinding rules' within) := by
  unfold typedBinding
  repeat' first | with_reducible refine Agree.bind ?_ fun _ => ?_ | split | simp_all

@[simp] theorem receiver_plain : receiver within = fail := by
  simp only [receiver, Within.Plain.types_eq]
  rfl

@[simp] theorem agree_parameterTarget :
    Agree limit True 16 (parameterTarget rules within) (parameterTarget rules' within) := by
  unfold parameterTarget
  repeat' first | with_reducible refine Agree.bind ?_ fun _ => ?_ | split | simp_all

@[simp] theorem agree_parameter :
    Agree limit True 16 (parameter rules within) (parameter rules' within) := by
  unfold parameter
  repeat' first | with_reducible refine Agree.bind ?_ fun _ => ?_ | split | simp_all

omit [Agreeing limit rules rules'] in
theorem takes_parameterTarget [Taking rules] : (parameterTarget rules within).Takes := by
  simp only [parameterTarget, receiver_plain, attempt_fail, pure_bind]
  exact .first takes_rule

omit [Agreeing limit rules rules'] in
@[simp] theorem takes_parameter [Taking rules] : (parameter rules within).Takes := by
  simp only [parameter, Within.Plain.types_eq]
  exact .later fun _ => .first (.first takes_parameterTarget)

@[simp] theorem agree_parameterStep [Taking rules] (done : List Tree) :
    Agree limit True 16 (parameterStep rules within done) (parameterStep rules' within done) := by
  unfold parameterStep
  refine .acceptParen (agree_pure _) ?_ ?_
  · repeat' first | with_reducible refine Agree.bind ?_ fun _ => ?_ | split | simp_all
  · repeat' first
      | with_reducible refine TakesIf.first (by simp)
      | with_reducible refine TakesIf.firstIf (takesIf_accept _) fun _ _ => ?_
      | with_reducible refine TakesIf.later fun _ => ?_
      | split
      | simp_all

theorem takesIf_parameterStep (rules : Rules) (within : Within) (done : List Tree) :
    (parameterStep rules within done).TakesIf fun next => next.isLeft := by
  unfold parameterStep
  repeat' first
    | with_reducible refine TakesIf.firstIf (takesIf_accept _) fun _ _ => ?_
    | with_reducible refine TakesIf.later fun _ => ?_
    | split
    | simp_all

theorem agree_parameterList [Taking rules] :
    Agree limit True 16 (Reader.iterate (parameterStep rules within) [])
      (Reader.iterate (parameterStep rules' within) []) :=
  .iterate agree_parameterStep (takesIf_parameterStep rules within) []

@[simp] theorem agree_parameters [Taking rules] {reserve : Nat} :
    Agree limit True reserve (parameters rules within) (parameters rules' within) := by
  unfold parameters
  refine .after (takes_expect _) (agree_expect (by decide)) fun _ => ?_
  exact .bind agree_parameterList fun _ => agree_pure _

/-! Functions -/

theorem agree_items [Taking rules] {stop : Reader Bool}
    (agree : Agree limit True 16 stop stop) :
    Agree limit True 16 (items (rules .item) within stop) (items (rules' .item) within stop) := by
  unfold items
  -- Strictness is all that the items change for those after them.
  refine .iterateWhere (fun state => state.within.Plain) ?_ ?_ ?_ ‹_›
  · intro state plain
    have : state.within.Plain := plain
    refine .bind agree fun ended => ?_
    split
    · exact agree_pure _
    · exact .bind agree_rule fun tree => agree_pure _
  · intro state plain
    have : state.within.Plain := plain
    refine .later fun ended => ?_
    split
    · exact takesIf_pure Bool.noConfusion
    · exact .first takes_rule
  · intro state cursor next after plain read
    have : state.within.Plain := plain
    obtain ⟨ended, _, _, read⟩ := bind_eq_some.mp read
    split at read
    · cases read
    · obtain ⟨tree, _, _, same⟩ := bind_eq_some.mp read
      cases same
      exact Within.Plain.inherited state.within rfl rfl

@[simp] theorem agree_functionBody [Taking rules] {reserve : Nat} :
    Agree limit True reserve (functionBody rules within) (functionBody rules' within) := by
  unfold functionBody
  refine .after (takes_expect _) (agree_expect (by decide)) fun _ => ?_
  exact .bind (agree_items (agree_accept (by decide))) fun _ => agree_pure _

@[simp] theorem agree_callable [Taking rules] {reserve : Nat} (tight : Bool) :
    Agree limit True reserve (callable rules within tight) (callable rules' within tight) := by
  unfold callable
  repeat' first | with_reducible refine Agree.bind ?_ fun _ => ?_ | split | simp_all

@[simp] theorem agree_functionFrom [Taking rules] {reserve : Nat}
    (isAsync named isDeclaration : Bool) :
    Agree limit True reserve (functionFrom rules within isAsync named isDeclaration)
      (functionFrom rules' within isAsync named isDeclaration) := by
  unfold functionFrom
  repeat' first | with_reducible refine Agree.bind ?_ fun _ => ?_ | split | simp_all

@[simp] theorem agree_arrowBody [Taking rules] (isAsync : Bool) :
    Agree limit True 16 (arrowBody rules within isAsync) (arrowBody rules' within isAsync) := by
  unfold arrowBody
  repeat' first | with_reducible refine Agree.bind ?_ fun _ => ?_ | split | simp_all

@[simp] theorem agree_arrowFrom [Taking rules] (isAsync : Bool) (types list result : Tree) :
    Agree limit True 16 (arrowFrom rules within isAsync types list result)
      (arrowFrom rules' within isAsync types list result) := by
  unfold arrowFrom
  repeat' first | with_reducible refine Agree.bind ?_ fun _ => ?_ | split | simp_all

@[simp] theorem agree_atAsyncFunction {reserve : Nat} {mayClose : Prop} :
    Agree limit mayClose reserve atAsyncFunction atAsyncFunction := by
  unfold atAsyncFunction
  refine .bind (.ahead (.bind (agree_expectWord _) fun _ => ?_)) fun _ => agree_pure _
  exact .sameLine (takes_expectWord _) (agree_expectWord _)

@[simp] theorem agree_functionTree [Taking rules] {reserve : Nat} (named isDeclaration : Bool) :
    Agree limit True reserve (functionTree rules within named isDeclaration)
      (functionTree rules' within named isDeclaration) := by
  unfold functionTree
  repeat' first | with_reducible refine Agree.bind ?_ fun _ => ?_ | split | simp_all

/-! Arrow functions -/

@[simp] theorem agree_arrowMark {reserve : Nat} {mayClose : Prop} :
    Agree limit mayClose reserve arrowMark arrowMark :=
  .sameLine (takes_expect _) (agree_expect (by decide))

@[simp] theorem takes_arrowMark : arrowMark.Takes :=
  .later fun _ => .later fun _ => takes_expect _

@[simp] theorem atTypeParameters_plain : atTypeParameters within = pure false := by
  ext1
  funext cursor
  simp only [atTypeParameters, Within.Plain.types_eq]
  exact bind_of_some (atMark_apply "<" cursor)

@[simp] theorem agree_arrowHead [Taking rules] {reserve : Nat} (isAsync : Bool) :
    Agree limit False reserve (arrowHead rules within isAsync)
      (arrowHead rules' within isAsync) := by
  simp only [arrowHead, typeParameters?_plain, annotation?_plain, pure_bind]
  exact .exactly agree_parameters
    (fun _ => .bind agree_arrowMark fun _ => agree_pure _)
    fun _ => Takes.ended (.first takes_arrowMark)

@[simp] theorem agree_bareArrowHead {reserve : Nat} {mayClose : Prop} (within : Within) :
    Agree limit mayClose reserve (bareArrowHead within) (bareArrowHead within) :=
  .bind (agree_declaredName within) fun _ => .bind agree_arrowMark fun _ => agree_pure _

@[simp] theorem takes_bareArrowHead (within : Within) : (bareArrowHead within).Takes :=
  .first (takes_declaredName within)

omit [Agreeing limit rules rules'] in
@[simp] theorem takes_arrowHead (isAsync : Bool) : (arrowHead rules within isAsync).Takes := by
  simp only [arrowHead, typeParameters?_plain, pure_bind]
  exact .first (.first (takes_expect _))

/-- The head of an arrow function from its parameters on. -/
def parametersHead (rules : Rules) (within inside : Within) (isAsync : Bool) :
    Reader (Tree × Tree × Tree) := do
  if (← atMark "(") || (← atTypeParameters within) then arrowHead rules within isAsync
  else bareArrowHead inside

theorem agree_parametersHead [Taking rules] {reserve : Nat} (inside : Within) (isAsync : Bool) :
    Agree limit False reserve (parametersHead rules within inside isAsync)
      (parametersHead rules' within inside isAsync) := by
  unfold parametersHead
  repeat' first | with_reducible refine Agree.bind ?_ fun _ => ?_ | split | simp_all

omit [Agreeing limit rules rules'] in
theorem takes_parametersHead (inside : Within) (isAsync : Bool) :
    (parametersHead rules within inside isAsync).Takes := by
  unfold parametersHead
  refine .later fun _ => .later fun _ => ?_
  split
  · exact takes_arrowHead isAsync
  · exact takes_bareArrowHead inside

/-- The head of an asynchronous arrow function. -/
def asyncHead (rules : Rules) (within : Within) : Reader (Tree × Tree × Tree) := do
  asyncMark
  parametersHead rules within { within with isAsync := true } true

theorem agree_asyncHead [Taking rules] {reserve : Nat} :
    Agree limit False reserve (asyncHead rules within) (asyncHead rules' within) := by
  simp only [asyncHead, asyncMark, bind_assoc]
  exact .bind (agree_expectWord _) fun _ =>
    .sameLine (takes_parametersHead _ _) (agree_parametersHead _ _)

theorem takes_asyncHead (rules : Rules) (within : Within) : (asyncHead rules within).Takes :=
  .first (.first (takes_expectWord _))

theorem arrow?_eq (rules : Rules) (within : Within) : arrow? rules within = (do
    if let some (types, list, result) ← attempt (parametersHead rules within within false) then
      return some (← arrowFrom rules within false types list result)
    if !(← atWord "async") then return none
    if let some (types, list, result) ← attempt (asyncHead rules within) then
      return some (← arrowFrom rules within true types list result)
    return none) := rfl

theorem agree_arrow? [Taking rules] {reserve : Nat} :
    Agree limit True reserve (arrow? rules within) (arrow? rules' within) := by
  rw [arrow?_eq, arrow?_eq]
  refine .afterIf (takesIf_attempt (takes_parametersHead _ _)) (agree_parametersHead _ _).attempt
    (fun head? found => ?_) fun head? none => ?_
  · obtain ⟨_, rfl⟩ := Option.isSome_iff_exists.mp found
    exact .bind (agree_arrowFrom _ _ _ _) fun _ => agree_pure _
  obtain rfl := Option.not_isSome_iff_eq_none.mp none
  refine .bind (agree_atWord _) fun isAsync => ?_
  split
  · exact agree_pure _
  refine .afterIf (takesIf_attempt (takes_asyncHead _ _)) agree_asyncHead.attempt
    (fun head? found => ?_) fun head? none => ?_
  · obtain ⟨_, rfl⟩ := Option.isSome_iff_exists.mp found
    exact .bind (agree_arrowFrom _ _ _ _) fun _ => agree_pure _
  · obtain rfl := Option.not_isSome_iff_eq_none.mp none
    exact agree_pure _

end Rules

end CssInline.Code.Grammar
