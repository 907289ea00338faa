import CssInline.Proofs.Enclosed.Rules
import CssInline.Proofs.Opening.Statement

/-! How far expressions go that are one operand before a mark that may follow a pattern. -/

namespace CssInline.Code

namespace Reader

/-- From `cursor` on `reader` gets to `after` and gives a value like this, or fails. -/
def EndsAt (holds : α → Prop) (reader : Reader α) (cursor after : Cursor) : Prop :=
  ∀ ⦃value last⦄, reader cursor = some (value, last) → last = after ∧ holds value

section EndsAt

variable {holds : α → Prop} {first : β → Prop} {reader : Reader β} {next : β → Reader α}
  {cursor middle after : Cursor}

theorem EndsAt.bind (before : EndsAt first reader cursor middle)
    (rest : ∀ value, first value → EndsAt holds (next value) middle after) :
    EndsAt holds (reader >>= next) cursor after := by
  intro value last read
  obtain ⟨value', middle', isFirst, read⟩ := bind_eq_some.mp read
  obtain ⟨rfl, held⟩ := before isFirst
  exact rest value' held read

theorem EndsAt.andThen {value : β} (before : reader cursor = some (value, middle))
    (rest : EndsAt holds (next value) middle after) :
    EndsAt holds (reader >>= next) cursor after := by
  unfold EndsAt
  rw [bind_of_some before]
  exact rest

theorem endsAt_of_eq {reader : Reader α} {value : α}
    (read : reader cursor = some (value, after)) (held : holds value) :
    EndsAt holds reader cursor after := by
  intro value' last read'
  rw [read] at read'
  cases read'
  exact ⟨rfl, held⟩

theorem endsAt_pure {value : α} (held : holds value) :
    EndsAt holds (pure value) cursor cursor :=
  endsAt_of_eq rfl held

theorem endsAt_of_none {reader : Reader α} (fails : reader cursor = none) :
    EndsAt holds reader cursor after := by
  intro value last read
  rw [fails] at read
  cases read

theorem EndsAt.of_eq {reader reader' : Reader α} (same : reader cursor = reader' cursor)
    (ends : EndsAt holds reader' cursor after) : EndsAt holds reader cursor after := by
  unfold EndsAt
  rw [same]
  exact ends

theorem endsAt_ofOption (value? : Option α) :
    EndsAt (fun _ => True) (ofOption value?) cursor cursor := by
  cases value? with
  | some value => exact endsAt_pure trivial
  | none => exact endsAt_of_none rfl

end EndsAt

theorem iterate_apply (step : α → Reader (α ⊕ β)) (state : α) (cursor : Cursor) :
    iterate step state cursor = iterateFrom step (cursor.rest.length + 2) state cursor := rfl

/-- Two loops whose steps go the same way. -/
theorem endsAt_iterate {step : α → Reader (α ⊕ β)} {step' : α' → Reader (α' ⊕ β')} {bound : Nat}
    (together : ∀ {cursor after state state' next}, cursor.rest.length ≤ bound →
      step state cursor = some (next, after) →
        EndsAt (fun next' => next'.isLeft = next.isLeft) (step' state') cursor after)
    {cursor after : Cursor} (short : cursor.rest.length ≤ bound) {state : α} {state' : α'}
    {result : β} (read : iterate step state cursor = some (result, after)) :
    EndsAt (fun _ => True) (iterate step' state') cursor after := by
  have loops (fuel : Nat) : ∀ {fuel' cursor state state'}, cursor.rest.length ≤ bound →
      iterateFrom step fuel state cursor = some (result, after) →
        EndsAt (fun _ => True) (iterateFrom step' fuel' state') cursor after := by
    induction fuel with
    | zero => nofun
    | succ fuel ih =>
      intro fuel' cursor state state' short read
      cases fuel' with
      | zero => exact endsAt_of_none rfl
      | succ fuel' =>
        rw [iterateFrom] at read ⊢
        obtain ⟨next, middle, isNext, read⟩ := bind_eq_some.mp read
        refine .bind (together short isNext) fun next' same => ?_
        have shorter := length_le isNext
        cases next with
        | inl state =>
          obtain ⟨state', rfl⟩ := Sum.isLeft_iff.mp same
          exact ih (by omega) read
        | inr result =>
          obtain ⟨result', rfl⟩ := Sum.isRight_iff.mp (Sum.isLeft_eq_false.mp same)
          cases read
          exact endsAt_pure trivial
  rw [iterate_apply] at read
  exact .of_eq (iterate_apply step' state' cursor) (loops _ short read)

end Reader

namespace Grammar

open Reader

variable {rules : Rules} {cursor middle next after : Cursor} {tree : Tree} {depth : Nat}

/-! Marks that follow patterns -/

/-- The marks that follow a pattern with its default value. -/
def patternEnds : List String :=
  [",", ")", "]", "\x7d"]

def AtPatternEnd (cursor : Cursor) : Prop :=
  ∃ mark ∈ patternEnds, markOf? cursor.rest = some mark

/-- Where a pattern may end and its default value may follow. -/
def AtBindingEnd (cursor : Cursor) : Prop :=
  ∃ mark ∈ "=" :: patternEnds, markOf? cursor.rest = some mark

theorem AtPatternEnd.atBindingEnd (ends : AtPatternEnd cursor) : AtBindingEnd cursor := by
  obtain ⟨mark, member, isMark⟩ := ends
  exact ⟨mark, List.mem_cons_of_mem _ member, isMark⟩

namespace AtBindingEnd

variable (ends : AtBindingEnd cursor)

include ends

theorem inside : cursor.rest ≠ [] := by
  obtain ⟨mark, _, isMark⟩ := ends
  intro ended
  rw [ended] at isMark
  cases isMark

theorem noTemplate : cursor.rest.head? ≠ some '\x60' := by
  obtain ⟨mark, _, isMark⟩ := ends
  exact head_of_mark isMark

theorem noWord : wordOf? cursor.rest = none := by
  obtain ⟨mark, _, isMark⟩ := ends
  exact wordOf?_of_mark isMark

theorem noToken {tokens : List String} (others : ∀ mark ∈ "=" :: patternEnds, mark ∉ tokens)
    {token : String} (isToken : tokenOf? cursor.rest = some token) : token ∉ tokens := by
  obtain ⟨mark, member, isMark⟩ := ends
  rw [tokenOf?, isMark] at isToken
  cases isToken
  exact others _ member

theorem noMark {mark : String} (other : mark ∉ "=" :: patternEnds) :
    markOf? cursor.rest ≠ some mark := by
  obtain ⟨mark', member, isMark⟩ := ends
  intro same
  rw [isMark] at same
  cases same
  exact other member

end AtBindingEnd

/-! Expressions of one operand -/

theorem endsAt_access {calls : Bool}
    (operand : EndsAt (fun _ => True) (primary rules scriptWithin) cursor next)
    (ends : AtBindingEnd next) :
    EndsAt (fun _ => True) (access rules scriptWithin calls) cursor next := by
  have noMark : ∀ mark ∈ accessMarks, markOf? next.rest ≠ some mark := fun mark member =>
    ends.noMark ((by decide : ∀ mark ∈ accessMarks, mark ∉ "=" :: patternEnds) mark member)
  refine .andThen (rfl : lineNumber cursor = some (cursor.line, cursor))
    (operand.bind fun first _ => ?_)
  exact endsAt_of_eq (iterate_of_done (accessStep_of_other ends.noTemplate noMark)) trivial

theorem endsAt_postfixed
    (operand : EndsAt (fun _ => True) (rules .operand scriptWithin) cursor next)
    (ends : AtBindingEnd next) :
    EndsAt (fun _ => True) (postfixed rules scriptWithin) cursor next := by
  have noUpdate : acceptOneOf ["++", "--"] next = some (none, next) :=
    acceptOneOf_of_other fun token isToken => ends.noToken (by decide) isToken
  refine operand.bind fun tree _ => .andThen (rfl : afterBreak next = some (_, next)) ?_
  split
  · exact endsAt_pure trivial
  · exact .andThen noUpdate (endsAt_pure trivial)

theorem endsAt_unary
    (noOperator : ∀ token, tokenOf? cursor.rest = some token →
      token ∉ unaryOperators ∧ token ∉ ["++", "--"])
    (operand : EndsAt (fun _ => True) (rules .operand scriptWithin) cursor next)
    (ends : AtBindingEnd next) :
    EndsAt (fun _ => True) (unary rules scriptWithin) cursor next := by
  refine .andThen (acceptOneOf_of_other fun token isToken => (noOperator token isToken).1) ?_
  refine .andThen (acceptOneOf_of_other fun token isToken => (noOperator token isToken).2) ?_
  exact endsAt_postfixed operand ends

theorem endsAt_binary (operand : EndsAt (fun _ => True) (rules .unary scriptWithin) cursor next)
    (ends : AtBindingEnd next) :
    EndsAt (fun _ => True) (binary rules scriptWithin) cursor next := by
  have noOperator : (tokenOf? next.rest).filter (isOperator scriptWithin) = none := by
    refine Option.filter_eq_none_iff.mpr fun token isToken isOperator => ?_
    have other : token ∉ binaryOperators := ends.noToken (by decide) isToken
    rw [Grammar.isOperator, precedence?_eq_none other, Option.isSome_none,
      Bool.and_false] at isOperator
    cases isOperator
  have done : operationStep rules scriptWithin [] next = some (.inr [], next) := by
    rw [operationStep_apply, noOperator]
    rfl
  refine operand.bind fun first _ => .andThen (iterate_of_done done) ?_
  exact endsAt_ofOption _

theorem endsAt_conditional
    (noOperator : ∀ token, tokenOf? cursor.rest = some token →
      token ∉ unaryOperators ∧ token ∉ ["++", "--"])
    (operand : EndsAt (fun _ => True) (primary (rulesOf depth) scriptWithin) cursor next)
    (ends : AtBindingEnd next) :
    EndsAt (fun _ => True) (conditional (rulesOf (depth + 2)) scriptWithin) cursor next := by
  have isOperand : EndsAt (fun _ => True) (rulesOf (depth + 1) .operand scriptWithin) cursor next :=
    endsAt_access operand ends
  have isUnary : EndsAt (fun _ => True) (rulesOf (depth + 2) .unary scriptWithin) cursor next :=
    endsAt_unary noOperator isOperand ends
  refine (endsAt_binary isUnary ends).bind fun test _ => ?_
  exact .andThen (accept_of_other (ends.noMark (by decide))) (endsAt_pure trivial)

/-! What starts with a mark -/

theorem bind_of_none {reader : Reader β} {next : β → Reader α} (fails : reader cursor = none) :
    (reader >>= next) cursor = none := by
  rw [bind_apply, fails]
  rfl

theorem anyWord_of_mark {mark : String} (isMark : markOf? cursor.rest = some mark) :
    anyWord cursor = none := by
  refine Option.eq_none_iff_forall_ne_some.mpr fun ⟨word, after⟩ read => ?_
  rw [anyWord_eq_some, wordOf?_of_mark isMark] at read
  cases read.1

theorem noArrow_of_mark {mark : String} (isMark : markOf? cursor.rest = some mark)
    (other : mark ∉ ["(", "<"]) : arrow? rules scriptWithin cursor = some (none, cursor) := by
  have noHead : parametersHead rules scriptWithin scriptWithin false cursor = none := by
    refine Option.eq_none_iff_forall_ne_some.mpr fun ⟨head, after⟩ read => ?_
    rcases eq_bareArrowHead read with ⟨mark', isMark', isOther⟩ | isName
    · rw [isMark] at isMark'
      cases isMark'
      simp only [List.mem_cons, List.not_mem_nil, or_false] at other
      exact other isOther
    · obtain ⟨_, _, isName, _⟩ := variableTree_of_bareArrowHead isName
      obtain ⟨_, _, isWord, _⟩ := exists_word_of_variableTree isName
      rw [anyWord_of_mark isMark] at isWord
      cases isWord
  rw [arrow?_eq, bind_of_some (attempt_of_none noHead)]
  dsimp only
  rw [bind_of_some (atWord_apply "async" cursor), keywordOf?_of_mark isMark]
  rfl

/-- Whether a mark is there, and what is read then. -/
theorem accept_cases {mark : String} {next : Bool → Reader α} {value : α}
    (read : (accept mark >>= next) cursor = some (value, after)) :
    markOf? cursor.rest ≠ some mark ∧ accept mark cursor = some (false, cursor) ∧
        next false cursor = some (value, after) ∨
      ∃ middle, markOf? cursor.rest = some mark ∧ accept mark cursor = some (true, middle) ∧
        next true middle = some (value, after) := by
  by_cases isMark : markOf? cursor.rest = some mark
  · obtain ⟨accepted, middle, first, read⟩ := bind_eq_some.mp read
    rcases accept_eq_some first with ⟨rfl, _⟩ | ⟨rfl, _⟩
    · rw [accept_apply, if_pos isMark] at first
      obtain ⟨_, _, same⟩ := Option.map_eq_some_iff.mp first
      cases same
    · exact .inr ⟨middle, isMark, first, read⟩
  · have first := accept_of_other isMark
    rw [bind_of_some first] at read
    exact .inl ⟨isMark, first, read⟩

theorem accept_of_expect {mark : String} {value : Unit}
    (read : expect mark cursor = some (value, after)) :
    accept mark cursor = some (true, after) := by
  obtain ⟨isMark, passed⟩ := expect_eq_some.mp read
  rw [accept_apply, if_pos isMark, passed]
  rfl

theorem expect_of_accept {mark : String} (read : accept mark cursor = some (true, after)) :
    expect mark cursor = some ((), after) := by
  unfold expect
  rw [bind_of_some read]
  rfl

theorem primary_of_bracket (isMark : markOf? cursor.rest = some "[") :
    primary rules scriptWithin cursor = array rules scriptWithin cursor := by
  obtain ⟨rest, line, afterBreak, comments⟩ := cursor
  obtain ⟨rest', rfl⟩ := prefix_of_markOf? isMark
  rfl

theorem primary_of_brace (isMark : markOf? cursor.rest = some "\x7b") :
    primary rules scriptWithin cursor = object rules scriptWithin cursor := by
  obtain ⟨rest, line, afterBreak, comments⟩ := cursor
  obtain ⟨rest', rfl⟩ := prefix_of_markOf? isMark
  rfl

end Grammar

end CssInline.Code
