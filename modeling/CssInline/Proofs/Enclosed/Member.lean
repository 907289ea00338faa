import CssInline.Proofs.Enclosed.Function

/-! Members of objects and classes of a text in parentheses. -/

namespace CssInline.Code.Grammar

open Reader

section Words

variable {limit reserve : Nat} {mayClose : Prop}

/-- Whether what follows makes a word before it a modifier. -/
def modifies (text : List Char) : Bool :=
  match markOf? text with
  | some mark => !keyEnds.contains mark
  | none => !text.isEmpty

theorem modifies_enclosed (cursor : Cursor) :
    modifies cursor.enclosed.rest = modifies cursor.rest := by
  by_cases ended : cursor.rest = []
  · rw [Cursor.enclosed_of_ended ended, ended]
    rfl
  · have begun : cursor.rest.isEmpty = false := List.isEmpty_eq_false_iff.mpr ended
    have begun' : cursor.enclosed.rest.isEmpty = false :=
      List.isEmpty_eq_false_iff.mpr cursor.rest_enclosed_ne_nil
    rw [modifies, modifies, markOf?_enclosed, if_neg ended, begun, begun']

theorem modifier_eq (word : String) : modifier word = (do
    let found ← attempt (do
      expectWord word
      require (modifies (← remaining)))
    return found.isSome) := by
  have modifying : (do
      match ← mark? with
      | some mark => require (!keyEnds.contains mark)
      | none => require (!(← atEnd)) : Reader Unit) = (do require (modifies (← remaining))) := by
    ext1
    funext cursor
    change _ = require (modifies cursor.rest) cursor
    rw [bind_of_some (mark?_apply cursor), modifies]
    cases markOf? cursor.rest <;> rfl
  exact congrArg (fun rest => do
    let found ← attempt (do
      expectWord word
      rest)
    return found.isSome) modifying

@[simp] theorem agree_modifier (word : String) :
    Agree limit mayClose reserve (modifier word) (modifier word) := by
  rw [modifier_eq]
  exact .bind (.attempt (.bind (agree_expectWord _) fun _ =>
    agree_requireHere (f := fun cursor => modifies cursor.rest) modifies_enclosed))
    fun _ => agree_pure _

theorem modifier_eq_true {word : String} {cursor after : Cursor}
    (read : modifier word cursor = some (true, after)) :
    after.rest.length < cursor.rest.length ∧ after.rest ≠ [] := by
  rw [modifier_eq] at read
  obtain ⟨found, middle, tried, same⟩ := bind_eq_some.mp read
  rcases attempt_eq_some tried with ⟨rfl, rfl⟩ | ⟨_, rfl, inside⟩
  · cases same
  · cases same
    obtain ⟨_, middle, isWord, required⟩ := bind_eq_some.mp inside
    obtain ⟨holds, rfl⟩ := require_eq_some.mp required
    refine ⟨takes_expectWord _ isWord trivial, fun ended => ?_⟩
    rw [ended] at holds
    cases holds

theorem takesIf_modifier (word : String) : (modifier word).TakesIf (· = true) := by
  rintro cursor _ after read rfl
  exact (modifier_eq_true read).1

/-- A modifier has something after it, which is not on a new line in the other text either. -/
@[simp] theorem agree_lineModifier (word : String) :
    Agree limit mayClose reserve (lineModifier word) (lineModifier word) := by
  refine .bind (.attempt fun cursor enough => ?_) fun _ => agree_pure _
  refine (agree_modifier word cursor enough).bind fun found after read => ?_
  cases found with
  | false => exact .failed
  | true =>
    change Meets False (require (!after.afterBreak) after)
      (require (!after.enclosed.afterBreak) after.enclosed)
    rw [Cursor.enclosed_of_inside (modifier_eq_true read).2]
    change Meets False _ (require (!after.afterBreak) _)
    cases after.afterBreak with
    | true => exact .failed
    | false =>
      rw [← Cursor.enclosed_of_inside (modifier_eq_true read).2]
      exact .read () after

theorem takesIf_lineModifier (word : String) : (lineModifier word).TakesIf (· = true) := by
  intro cursor found after read isTrue
  obtain ⟨tried?, middle, tried, same⟩ := bind_eq_some.mp read
  cases same
  refine takesIf_attempt ?_ tried isTrue
  intro cursor _ after read _
  obtain ⟨found, middle, isModifier, read⟩ := bind_eq_some.mp read
  cases found with
  | false => cases read
  | true => exact Nat.lt_of_le_of_lt (length_le read) (takesIf_modifier word isModifier rfl)

@[simp] theorem agree_accessor? :
    Agree limit mayClose reserve accessor? accessor? := by
  unfold accessor?
  repeat' first | with_reducible refine Agree.bind ?_ fun _ => ?_ | split | simp_all

theorem takesIf_accessor? : accessor?.TakesIf fun accessor? => accessor?.isSome := by
  unfold accessor?
  repeat' first
    | with_reducible refine TakesIf.firstIf (takesIf_modifier _) fun _ _ => ?_
    | split
    | simp_all

end Words

section Rules

variable {limit : Nat} {rules rules' : Rules} [Agreeing limit rules rules'] {within : Within}
  [within.Plain]

/-! Objects -/

@[simp] theorem agree_accessorCallable [Taking rules] (accessor : Accessor) (tight : Bool) :
    Agree limit True 16 (accessorCallable rules within accessor tight)
      (accessorCallable rules' within accessor tight) := by
  unfold accessorCallable
  repeat' first | with_reducible refine Agree.bind ?_ fun _ => ?_ | split | simp_all

@[simp] theorem agree_shorthandProperty :
    Agree limit True 16 (shorthandProperty rules within) (shorthandProperty rules' within) := by
  unfold shorthandProperty
  repeat' first | with_reducible refine Agree.bind ?_ fun _ => ?_ | split | simp_all

@[simp] theorem agree_atParameters {reserve : Nat} {mayClose : Prop} (within : Within) :
    Agree limit mayClose reserve (atParameters within) (atParameters within) := by
  unfold atParameters
  repeat' first | with_reducible refine Agree.bind ?_ fun _ => ?_ | split | simp_all

omit [within.Plain] in
theorem atParameters_apply (within : Within) (cursor : Cursor) :
    atParameters within cursor = some (markOf? cursor.rest == some "(" ||
      (within.types && markOf? cursor.rest == some "<"), cursor) := rfl

@[simp] theorem agree_leadingKey :
    Agree limit False 16 (leadingKey rules within) (leadingKey rules' within) := by
  refine .exactly agree_propertyKey (fun key => ?_) fun key cursor ended => ?_
  · repeat' first | with_reducible refine Agree.bind ?_ fun _ => ?_ | split | simp_all
  · rw [bind_of_some (atParameters_apply within cursor), bind_of_some (atMark_apply ":" cursor),
      ended, Within.Plain.types_eq]
    rfl

@[simp] theorem takes_propertyKey (rules : Rules) (within : Within) :
    (propertyKey rules within).Takes := by
  unfold propertyKey
  repeat' first
    | with_reducible refine TakesIf.first (by simp)
    | with_reducible refine TakesIf.firstIf (takesIf_accept _) fun _ _ => ?_
    | with_reducible refine TakesIf.later fun _ => ?_
    | split

@[simp] theorem agree_keyedProperty [Taking rules] (isAsync isGenerator : Bool) (key : Tree) :
    Agree limit True 16 (keyedProperty rules within isAsync isGenerator key)
      (keyedProperty rules' within isAsync isGenerator key) := by
  unfold keyedProperty
  repeat' first | with_reducible refine Agree.bind ?_ fun _ => ?_ | split | simp_all

@[simp] theorem agree_accessorProperty [Taking rules] (accessor : Accessor) :
    Agree limit True 16 (accessorProperty rules within accessor)
      (accessorProperty rules' within accessor) := by
  unfold accessorProperty
  repeat' first | with_reducible refine Agree.bind ?_ fun _ => ?_ | split | simp_all

@[simp] theorem agree_property [Taking rules] :
    Agree limit True 16 (property rules within) (property rules' within) := by
  unfold property
  repeat' first | with_reducible refine Agree.bind ?_ fun _ => ?_ | split | simp_all

@[simp] theorem takes_property (rules : Rules) (within : Within) :
    (property rules within).Takes := by
  refine .firstIf (takesIf_accept _) fun isSpread noSpread => ?_
  rw [if_neg noSpread]
  refine .firstIf takesIf_accessor? fun accessor? noAccessor => ?_
  obtain rfl := Option.not_isSome_iff_eq_none.mp noAccessor
  refine .later fun isAsync => .later fun isGenerator => ?_
  refine .firstIf (takesIf_attempt (.first (takes_propertyKey rules within))) fun key? noKey => ?_
  obtain rfl := Option.not_isSome_iff_eq_none.mp noKey
  exact .later fun _ => .first (takes_variableName within)

@[simp] theorem agree_object [Taking rules] {reserve : Nat} :
    Agree limit True reserve (object rules within) (object rules' within) := by
  unfold object
  refine .after (takes_expect _) (agree_expect (by decide)) fun _ => ?_
  exact .bind (agree_commaList agree_property (takes_property rules within) _) fun _ => agree_pure _

/-! Classes -/

@[simp] theorem agree_memberWords {reserve : Nat} {mayClose : Prop} :
    Agree limit mayClose reserve (memberWords within) (memberWords within) := by
  unfold memberWords
  refine .iterate (fun words => ?_) (fun words => ?_) ""
  · refine .bind (agree_lineModifier _) fun isStatic => ?_
    split <;> simp
  · refine .firstIf (takesIf_lineModifier _) fun isStatic noStatic => ?_
    simp [noStatic]

@[simp] theorem agree_memberKeyTree :
    Agree limit True 16 (memberKeyTree rules within) (memberKeyTree rules' within) := by
  unfold memberKeyTree
  repeat' first | with_reducible refine Agree.bind ?_ fun _ => ?_ | split | simp_all

@[simp] theorem agree_fieldFrom (words : String) (key : Tree) :
    Agree limit True 16 (fieldFrom rules within words key) (fieldFrom rules' within words key) := by
  unfold fieldFrom
  repeat' first | with_reducible refine Agree.bind ?_ fun _ => ?_ | split | simp_all

@[simp] theorem agree_accessorMember [Taking rules] (words : String) (accessor : Accessor) :
    Agree limit True 16 (accessorMember rules within words accessor)
      (accessorMember rules' within words accessor) := by
  unfold accessorMember
  repeat' first | with_reducible refine Agree.bind ?_ fun _ => ?_ | split | simp_all

@[simp] theorem agree_keyedMember [Taking rules] (words : String) :
    Agree limit True 16 (keyedMember rules within words) (keyedMember rules' within words) := by
  unfold keyedMember
  repeat' first | with_reducible refine Agree.bind ?_ fun _ => ?_ | split | simp_all

@[simp] theorem agree_staticBlock [Taking rules] :
    Agree limit True 16 (staticBlock rules within) (staticBlock rules' within) := by
  unfold staticBlock
  refine .bind (agree_expectWord _) fun _ => .bind (agree_expect (by decide)) fun _ => ?_
  exact .bind (agree_items (agree_accept (by decide))) fun _ => agree_pure _

@[simp] theorem agree_atStaticBlock {reserve : Nat} {mayClose : Prop} :
    Agree limit mayClose reserve atStaticBlock atStaticBlock := by
  unfold atStaticBlock
  exact .bind (.ahead (.bind (agree_expectWord _) fun _ => agree_expect (by decide)))
    fun _ => agree_pure _

@[simp] theorem agree_classMember [Taking rules] :
    Agree limit True 16 (classMember rules within) (classMember rules' within) := by
  unfold classMember
  repeat' first | with_reducible refine Agree.bind ?_ fun _ => ?_ | split | simp_all

@[simp] theorem takes_memberKeyTree (rules : Rules) (within : Within) :
    (memberKeyTree rules within).Takes := by
  unfold memberKeyTree
  refine .later fun isPrivate => ?_
  split
  · exact takes_privateName
  · exact takes_propertyKey rules within

@[simp] theorem takes_classMember (rules : Rules) (within : Within) :
    (classMember rules within).Takes := by
  refine .later fun isBlock => ?_
  split
  · exact .first (takes_expectWord _)
  refine .later fun words => .firstIf takesIf_accessor? fun accessor? noAccessor => ?_
  obtain rfl := Option.not_isSome_iff_eq_none.mp noAccessor
  exact .later fun isAsync => .later fun isGenerator => .first (takes_memberKeyTree rules within)

@[simp] theorem agree_classBody [Taking rules] {reserve : Nat} :
    Agree limit True reserve (classBody rules within) (classBody rules' within) := by
  unfold classBody
  refine .after (takes_expect _) (agree_expect (by decide)) fun _ => ?_
  refine .bind (.iterate (fun done => ?_) (fun done => ?_) []) fun members =>
    .bind (agree_require _) fun _ => agree_pure _
  · repeat' first | with_reducible refine Agree.bind ?_ fun _ => ?_ | split | simp_all
  · refine .later fun ended => ?_
    split
    · exact takesIf_pure Bool.noConfusion
    refine .firstIf (takesIf_accept _) fun isEmpty noEmpty => ?_
    rw [if_neg noEmpty]
    exact .first (takes_classMember rules within)

@[simp] theorem agree_superclass :
    Agree limit True 16 (superclass rules within) (superclass rules' within) := by
  unfold superclass
  repeat' first | with_reducible refine Agree.bind ?_ fun _ => ?_ | split | simp_all

@[simp] theorem interfaces_plain : interfaces rules within = pure .absent := by
  simp only [interfaces, Within.Plain.types_eq, onlyIf_false]
  rfl

@[simp] theorem agree_classTree [Taking rules] {reserve : Nat} (named : Bool) :
    Agree limit True reserve (classTree rules within named) (classTree rules' within named) := by
  unfold classTree
  refine .after (takes_expectWord _) (agree_expectWord _) fun _ => ?_
  repeat' first | with_reducible refine Agree.bind ?_ fun _ => ?_ | split | simp_all

end Rules

end CssInline.Code.Grammar
