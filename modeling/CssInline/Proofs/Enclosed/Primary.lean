import CssInline.Proofs.Enclosed.Member

/-! Operands of a text in parentheses, and the accesses and calls that follow them. -/

namespace CssInline.Code.Grammar

open Reader

section Rules

variable {limit : Nat} {rules rules' : Rules} [Agreeing limit rules rules'] {within : Within}
  [within.Plain]

/-! Templates -/

theorem quasi_apply (cursor : Cursor) : quasi cursor =
    (quasiText? cursor.rest).map fun raw => (quasiOf raw, cursor.advance raw.length) := by
  unfold quasi
  rw [bind_of_some (rfl : remaining cursor = some (cursor.rest, cursor))]
  cases quasiText? cursor.rest <;> rfl

/-- A text of a template ends at a tick or at an interpolation. -/
theorem quasi_reads {cursor after : Cursor} {text : Quasi}
    (read : quasi cursor = some (text, after)) :
    (∃ rest, after.rest = '\x60' :: rest) ∨ ∃ rest, after.rest = '$' :: '{' :: rest := by
  rw [quasi_apply] at read
  obtain ⟨raw, found, same⟩ := Option.map_eq_some_iff.mp read
  cases same
  exact drop_of_quasiText? found

theorem quasi_extended (cursor : Cursor) : quasi cursor.extended =
    (quasi cursor).map fun (quasi, after) => (quasi, after.enclosed) := by
  cases read : quasi cursor with
  | none =>
    rw [quasi_apply] at read ⊢
    change (quasiText? (cursor.rest ++ closing)).map _ = _
    rw [quasiText?_append_closing, Option.map_eq_none_iff.mp read]
    rfl
  | some found =>
    have going : found.2.rest ≠ [] := by
      rcases quasi_reads read with ⟨_, same⟩ | ⟨_, same⟩ <;> rw [same] <;> nofun
    rw [quasi_apply] at read ⊢
    obtain ⟨raw, isRaw, rfl⟩ := Option.map_eq_some_iff.mp read
    have inside : raw.length ≤ cursor.rest.length := by
      refine Nat.le_of_lt (Nat.lt_of_not_le fun beyond => going ?_)
      rw [Cursor.rest_advance, List.drop_eq_nil_of_le beyond]
    change (quasiText? (cursor.rest ++ closing)).map _ = _
    simp only [quasiText?_append_closing, isRaw, Option.map_some,
      Cursor.enclosed_of_inside going, Cursor.advance_extended inside]

theorem atBacktick_apply (cursor : Cursor) :
    atBacktick cursor = some (cursor.rest.head? == some '\x60', cursor) := rfl

/-- The texts of a template are read as they stand, with all blanks. -/
theorem meets_templateFrom {fuel fuel' : Nat} {cursor : Cursor}
    (enough : 16 * cursor.rest.length + 16 ≤ limit) (bound : cursor.rest.length < fuel)
    (bound' : cursor.rest.length < fuel') (done : TemplatePieces) :
    Meets True (iterateFrom (templateStep rules within) fuel done cursor)
      (iterateFrom (templateStep rules' within) fuel' done cursor.extended) := by
  induction fuel generalizing fuel' cursor done with
  | zero => cases bound
  | succ fuel ih =>
    obtain ⟨fuel', rfl⟩ := Nat.exists_eq_succ_of_ne_zero (Nat.ne_zero_of_lt bound')
    simp only [iterateFrom, templateStep, bind_assoc]
    have tick : Agree limit True 16 atBacktick atBacktick := agree_atBacktick
    have expression : Agree limit True 16 (rules .expression within.bracketed)
        (rules' .expression within.bracketed) := agree_rule
    have found' := quasi_extended cursor
    cases found : quasi cursor with
    | none =>
      rw [found] at found'
      rw [bind_apply, bind_apply, found, found']
      exact .failed
    | some result =>
      obtain ⟨text, after⟩ := result
      rw [found] at found'
      rw [bind_of_some found, bind_of_some found']
      have shorter := length_le found
      refine (tick after (by omega)).bind fun isTick same read => ?_
      cases read
      rcases quasi_reads found with ⟨rest, starts⟩ | ⟨rest, starts⟩
      · simp only [starts, List.head?_cons, beq_self_eq_true, if_true, bind_assoc]
        refine (meets_pass Nat.one_pos (by rw [starts]; exact Nat.le_add_left _ _)).bind
          fun _ last _ => ?_
        exact .read _ last
      · have noTick : (some '$' == some '\x60') = false := by decide
        simp only [starts, List.head?_cons, noTick, Bool.false_eq_true, if_false, bind_assoc]
        have inside : 2 ≤ after.rest.length := by
          rw [starts]
          exact Nat.le_add_left _ _
        refine (meets_pass Nat.two_pos inside).bind fun _ opened passed => ?_
        have shorter' := length_of_pass passed
        refine (expression opened (by omega)).bind fun hole closes read => ?_
        have taken := length_le read
        cases closed : expectRaw "\x7d" closes with
        | none =>
          rw [bind_apply, bind_apply, closed, expectRaw_enclosed_of_none (by decide) closed]
          exact .failed
        | some last =>
          obtain ⟨_, last⟩ := last
          rw [bind_of_some closed, bind_of_some (expectRaw_enclosed closed)]
          have := length_le closed
          exact ih (by omega) (by omega) (by omega) _

theorem length_pos_of_tick {cursor : Cursor} (isTick : (cursor.rest.head? == some '\x60') = true) :
    1 ≤ cursor.rest.length := by
  obtain ⟨rest, same⟩ := List.head?_eq_some_iff.mp (beq_iff_eq.mp isTick)
  rw [same]
  exact Nat.le_add_left _ _

@[simp] theorem agree_templatePieces {reserve : Nat} :
    Agree limit True reserve (templatePieces rules within) (templatePieces rules' within) :=
  fun cursor enough => by
    have tick : Agree limit True reserve atBacktick atBacktick := agree_atBacktick
    refine (tick cursor enough).bind fun isTick same read => ?_
    cases read
    cases isTick : cursor.rest.head? == some '\x60' with
    | false => exact .failed
    | true =>
      have begun := length_pos_of_tick isTick
      change Meets True (iterateFrom (templateStep rules within)
          ((cursor.advance 1).rest.length + 2) ⟨[], []⟩ (cursor.advance 1))
        (iterateFrom (templateStep rules' within)
          ((cursor.enclosed.advance 1).rest.length + 2) ⟨[], []⟩ (cursor.enclosed.advance 1))
      rw [Cursor.enclosed_of_inside (List.length_pos_iff.mp begun), Cursor.advance_extended begun]
      have shorter : (cursor.advance 1).rest.length = cursor.rest.length - 1 := by
        rw [Cursor.rest_advance, List.length_drop]
      have enough' : 16 * (cursor.advance 1).rest.length + 16 ≤ limit := by omega
      refine meets_templateFrom enough' (Nat.lt_add_of_pos_right Nat.two_pos) ?_ _
      simp only [Cursor.extended, List.length_append]
      omega

omit [within.Plain] in
@[simp] theorem takes_templatePieces (rules : Rules) : (templatePieces rules within).Takes := by
  intro cursor pieces after read _
  rw [templatePieces, bind_of_some (atBacktick_apply cursor)] at read
  obtain ⟨_, checked, required, inside⟩ := bind_eq_some.mp read
  obtain ⟨isTick, rfl⟩ := require_eq_some.mp required
  have begun := length_pos_of_tick isTick
  obtain ⟨_, opened, advanced, pieces⟩ := bind_eq_some.mp inside
  cases advanced
  have := length_le pieces
  rw [Cursor.rest_advance, List.length_drop] at this
  omega

@[simp] theorem agree_template {reserve : Nat} :
    Agree limit True reserve (template rules within) (template rules' within) := by
  unfold template
  repeat' first | with_reducible refine Agree.bind ?_ fun _ => ?_ | split | simp_all

/-! Lists and parentheses -/

@[simp] theorem agree_argument :
    Agree limit True 16 (argument rules within) (argument rules' within) := by
  unfold argument
  repeat' first | with_reducible refine Agree.bind ?_ fun _ => ?_ | split | simp_all

omit [Agreeing limit rules rules'] in
theorem takes_argument [Taking rules] : (argument rules within).Takes := by
  refine .firstIf (takesIf_accept _) fun isSpread noSpread => ?_
  rw [if_neg noSpread]
  exact takes_rule

@[simp] theorem agree_arguments [Taking rules] {reserve : Nat} :
    Agree limit True reserve (arguments rules within) (arguments rules' within) :=
  .after (takes_expect _) (agree_expect (by decide)) fun _ =>
    agree_commaList agree_argument takes_argument _

@[simp] theorem agree_arrayStep (done : List Tree) :
    Agree limit True 16 (arrayStep rules within done) (arrayStep rules' within done) := by
  unfold arrayStep
  repeat' first | with_reducible refine Agree.bind ?_ fun _ => ?_ | split | simp_all

theorem takesIf_arrayStep (rules : Rules) (within : Within) (done : List Tree) :
    (arrayStep rules within done).TakesIf fun next => next.isLeft := by
  unfold arrayStep
  repeat' first
    | with_reducible refine TakesIf.firstIf (takesIf_accept _) fun _ _ => ?_
    | with_reducible refine TakesIf.later fun _ => ?_
    | split
    | simp_all

@[simp] theorem agree_array {reserve : Nat} :
    Agree limit True reserve (array rules within) (array rules' within) := by
  unfold array
  refine .after (takes_expect _) (agree_expect (by decide)) fun _ => ?_
  exact .bind (.iterate agree_arrayStep (takesIf_arrayStep rules within) []) fun _ => agree_pure _

@[simp] theorem agree_parenthesized {reserve : Nat} :
    Agree limit True reserve (parenthesized rules within) (parenthesized rules' within) := by
  unfold parenthesized
  refine .after (takes_expect _) (agree_expect (by decide)) fun _ => ?_
  repeat' first | with_reducible refine Agree.bind ?_ fun _ => ?_ | split | simp_all

@[simp] theorem agree_computedName {reserve : Nat} :
    Agree limit True reserve (computedName rules within) (computedName rules' within) := by
  unfold computedName
  refine .after (takes_expect _) (agree_expect (by decide)) fun _ => ?_
  repeat' first | with_reducible refine Agree.bind ?_ fun _ => ?_ | split | simp_all

/-! Accesses and calls -/

@[simp] theorem agree_accessedName {reserve : Nat} {mayClose : Prop} :
    Agree limit mayClose reserve accessedName accessedName := by
  unfold accessedName
  repeat' first | with_reducible refine Agree.bind ?_ fun _ => ?_ | split | simp_all

@[simp] theorem agree_optionalStep [Taking rules] {reserve : Nat} (access : Access) :
    Agree limit True reserve (optionalStep rules within access)
      (optionalStep rules' within access) := by
  unfold optionalStep
  repeat' first | with_reducible refine Agree.bind ?_ fun _ => ?_ | split | simp_all

@[simp] theorem agree_taggedStep {reserve : Nat} (line : Nat) (access : Access) (types : Tree) :
    Agree limit True reserve (taggedStep rules within line access types)
      (taggedStep rules' within line access types) := by
  unfold taggedStep
  repeat' first | with_reducible refine Agree.bind ?_ fun _ => ?_ | split | simp_all

/-! Words -/

@[simp] theorem agree_superAccess [Taking rules] {reserve : Nat} :
    Agree limit True reserve (superAccess rules within) (superAccess rules' within) := by
  unfold superAccess
  repeat' first | with_reducible refine Agree.bind ?_ fun _ => ?_ | split | simp_all

@[simp] theorem agree_importAccess [Taking rules] {reserve : Nat} :
    Agree limit True reserve (importAccess rules within) (importAccess rules' within) := by
  unfold importAccess
  repeat' first | with_reducible refine Agree.bind ?_ fun _ => ?_ | split | simp_all

@[simp] theorem agree_newExpression [Taking rules] {reserve : Nat} :
    Agree limit True reserve (newExpression rules within) (newExpression rules' within) := by
  unfold newExpression
  refine .after (takes_expectWord _) (agree_expectWord _) fun _ => ?_
  repeat' first | with_reducible refine Agree.bind ?_ fun _ => ?_ | split | simp_all

@[simp] theorem agree_keywordLeaf {reserve : Nat} {mayClose : Prop} (keyword : String)
    (form : Form) :
    Agree limit mayClose reserve (keywordLeaf keyword form) (keywordLeaf keyword form) :=
  .bind (agree_expectWord _) fun _ => agree_pure _

@[simp] theorem agree_variableTree {reserve : Nat} {mayClose : Prop} (within : Within) :
    Agree limit mayClose reserve (variableTree within) (variableTree within) :=
  .bind (agree_variableName within) fun _ => agree_pure _

@[simp] theorem agree_wordExpression [Taking rules] {reserve : Nat} :
    Agree limit True reserve (wordExpression rules within) (wordExpression rules' within) := by
  unfold wordExpression
  repeat' first | with_reducible refine Agree.bind ?_ fun _ => ?_ | split | simp_all

@[simp] theorem agree_searchedName {reserve : Nat} {mayClose : Prop} :
    Agree limit mayClose reserve searchedName searchedName := by
  unfold searchedName
  repeat' first | with_reducible refine Agree.bind ?_ fun _ => ?_ | split | simp_all

@[simp] theorem agree_primary [Taking rules] {reserve : Nat} :
    Agree limit True reserve (primary rules within) (primary rules' within) := by
  simp only [primary, Within.Plain.markup_eq, require_false_bind]
  repeat' first
    | with_reducible refine Agree.mark? rfl fun _ => ?_
    | with_reducible refine Agree.bind ?_ fun _ => ?_
    | split
    | simp_all

theorem takes_functionTree (rules : Rules) (within : Within) (named isDeclaration : Bool) :
    (functionTree rules within named isDeclaration).Takes := by
  refine .later fun isAsync => ?_
  split
  · exact .first (takes_expectWord _)
  · exact .first (takes_expectWord _)

@[simp] theorem takes_wordExpression (rules : Rules) (within : Within) :
    (wordExpression rules within).Takes := by
  have variableTree : (variableTree within).Takes := .first (takes_variableName within)
  refine .later fun keyword? => ?_
  split
  case h_5 => exact takes_functionTree rules within false false
  case h_10 =>
    refine .later fun isFunction => ?_
    split
    · exact takes_functionTree rules within false false
    · exact variableTree
  case h_11 => exact variableTree
  all_goals exact .first (takes_expectWord _)

omit [Agreeing limit rules rules'] in
@[simp] theorem takes_primary : (primary rules within).Takes := by
  simp only [primary, Within.Plain.markup_eq, require_false_bind]
  refine .later fun isQuote => ?_
  split
  · exact .first (takes_string within)
  refine .later fun isDigit => ?_
  split
  · exact .first (takes_number _)
  refine .later fun isTick => ?_
  split
  · exact .first (takes_templatePieces rules)
  refine .later fun mark? => ?_
  split
  case h_4 | h_5 => exact .first takes_regex
  case h_6 => exact .first takes_privateName
  case h_7 => exact takesIf_fail
  case h_8 => exact takes_wordExpression rules within
  all_goals exact .first (takes_expect _)

@[simp] theorem agree_accessStep [Taking rules] {reserve : Nat} (line : Nat) (calls : Bool)
    (access : Access) :
    Agree limit True reserve (accessStep rules within line calls access)
      (accessStep rules' within line calls access) := by
  simp only [accessStep, Within.Plain.types_eq, Bool.false_and, Bool.false_eq_true, if_false,
    afterBreak_bind]
  refine .bind agree_atBacktick fun isTick => ?_
  split
  · exact .bind (agree_taggedStep _ _ _) fun _ => agree_pure _
  refine .markAt rfl fun {cursor mark?} isMark enough => ?_
  split
  case h_1 =>
    refine (meets_pass Nat.one_pos (length_of_markOf? isMark).2).bind fun _ after passed => ?_
    have name : Agree limit True reserve accessedName accessedName := agree_accessedName
    have := length_of_pass passed
    exact (name after (by omega)).bind fun property last _ => .read _ last
  all_goals refine (show Agree limit True reserve _ _ from ?_) cursor enough
  all_goals
    repeat' first | with_reducible refine Agree.bind ?_ fun _ => ?_ | split | simp_all

omit [Agreeing limit rules rules'] in
theorem takesIf_accessStep (line : Nat) (calls : Bool) (access : Access) :
    (accessStep rules within line calls access).TakesIf fun next => next.isLeft := by
  simp only [accessStep, Within.Plain.types_eq, Bool.false_and, Bool.false_eq_true, if_false,
    afterBreak_bind]
  refine .later fun isTick => ?_
  split
  · exact .first (.later fun _ => .first (takes_templatePieces rules))
  refine .markAt fun {cursor after mark? next} isMark read going => ?_
  split at read
  case h_1 =>
    obtain ⟨_, middle, passed, read⟩ := bind_eq_some.mp read
    have := length_le read
    have := takes_pass Nat.one_pos (length_of_markOf? isMark).2 passed
    omega
  case h_2 => exact (TakesIf.first (.first (takes_expect _)) : Takes _) read trivial
  case h_3 =>
    split at read
    · exact (TakesIf.first (.first (takes_expect _)) : Takes _) read trivial
    · cases read
      cases going
  case h_4 =>
    exact (TakesIf.later (fun _ => .first (.first (takes_expect _))) : Takes _) read trivial
  all_goals
    cases read
    cases going

theorem agree_access [Taking rules] {reserve : Nat} (calls : Bool) :
    Agree limit True reserve (access rules within calls) (access rules' within calls) := by
  refine .lineNumber (fun line => .first takes_primary) fun line =>
    .bind agree_primary fun first => ?_
  exact .iterate (agree_accessStep line calls) (takesIf_accessStep line calls) _

omit [Agreeing limit rules rules'] in
theorem takes_access (calls : Bool) : (access rules within calls).Takes :=
  .later fun _ => .first takes_primary

end Rules

end CssInline.Code.Grammar
