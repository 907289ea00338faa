import CssInline.Code.Grammar.Module
import CssInline.Proofs.Enclosed.Token

/-! Lists, names and patterns of a text in parentheses. -/

namespace CssInline.Code.Grammar

open Reader

/-- Neither types nor elements may be written. -/
class Within.Plain (within : Within) : Prop where
  noTypes : within.types = false
  noMarkup : within.markup = false

namespace Within.Plain

theorem inherited (within : Within) [plain : within.Plain] {inside : Within}
    (types : inside.types = within.types) (markup : inside.markup = within.markup) : inside.Plain :=
  ⟨types.trans plain.noTypes, markup.trans plain.noMarkup⟩

variable {within : Within} [within.Plain]

@[simp] theorem types_eq : within.types = false := noTypes

@[simp] theorem markup_eq : within.markup = false := noMarkup

instance {isModule strict inFunction hasTarget inMethod isAsync isGenerator allowIn breakable
    continuable : Bool} {labels : List String} {ambient : Bool} :
    Within.Plain ⟨within.types, within.markup, isModule, strict, inFunction, hasTarget, inMethod,
      isAsync, isGenerator, allowIn, breakable, continuable, labels, ambient⟩ :=
  inherited within rfl rfl

instance {isModule strict inFunction hasTarget inMethod isAsync isGenerator allowIn breakable
    continuable : Bool} {labels : List String} {ambient : Bool} :
    Within.Plain ⟨false, false, isModule, strict, inFunction, hasTarget, inMethod, isAsync,
      isGenerator, allowIn, breakable, continuable, labels, ambient⟩ :=
  ⟨rfl, rfl⟩

instance : scriptWithin.Plain := ⟨rfl, rfl⟩

instance : within.bracketed.Plain := inherited within rfl rfl

instance : within.loop.Plain := inherited within rfl rfl

instance (isAsync isGenerator : Bool) : (within.function isAsync isGenerator).Plain :=
  inherited within rfl rfl

instance (isAsync isGenerator : Bool) : (within.method isAsync isGenerator).Plain :=
  inherited within rfl rfl

instance (isAsync : Bool) : (within.arrow isAsync).Plain := inherited within rfl rfl

end Within.Plain

/-- A goal of plain code. -/
class Goal.IsCode (goal : Goal) : Prop where
  isCode : goal ≠ .type ∧ goal ≠ .element

instance : Goal.IsCode .item := ⟨by decide⟩
instance : Goal.IsCode .statement := ⟨by decide⟩
instance : Goal.IsCode .expression := ⟨by decide⟩
instance : Goal.IsCode .assignment := ⟨by decide⟩
instance : Goal.IsCode .unary := ⟨by decide⟩
instance : Goal.IsCode .operand := ⟨by decide⟩
instance : Goal.IsCode .callee := ⟨by decide⟩
instance : Goal.IsCode .binding := ⟨by decide⟩

/-- How many rules may follow each other before one of them takes something. -/
def Goal.rank : Goal → Nat
  | .item | .statement => 4
  | .expression => 3
  | .assignment => 2
  | .unary => 1
  | _ => 0

theorem Goal.rank_lt (goal : Goal) : goal.rank + 1 ≤ 16 := by
  cases goal <;> decide

/-- Each rule takes something. -/
class Taking (rules : Rules) : Prop where
  takes : ∀ (goal : Goal) [goal.IsCode] (within : Within) [within.Plain], (rules goal within).Takes

/-- The rules read the same of a text and of the text in parentheses. -/
class Agreeing (limit : Nat) (rules rules' : Rules) : Prop where
  agree : ∀ (goal : Goal) [goal.IsCode] (within : Within) [within.Plain],
    Agree limit True (goal.rank + 1) (rules goal within) (rules' goal within)

section Lists

variable {limit : Nat} {item item' : Reader Tree}

theorem agree_expectAny {reserve : Nat} (mark : String) :
    Agree limit True reserve (expect mark) (expect mark) := by
  by_cases paren : mark = ")"
  · exact paren ▸ agree_expectParen
  · exact agree_expect paren

theorem agree_commaListStep (agree : Agree limit True 16 item item') (takes : item.Takes)
    (closing : String) (done : List Tree) :
    Agree limit True 16 (commaListStep closing item done) (commaListStep closing item' done) := by
  unfold commaListStep
  have more : Agree limit True 16
      (do
        let tree ← item
        if ← accept "," then return .inl (tree :: done)
        expect closing
        return .inr (tree :: done).reverse : Reader (List Tree ⊕ List Tree))
      (do
        let tree ← item'
        if ← accept "," then return .inl (tree :: done)
        expect closing
        return .inr (tree :: done).reverse) := by
    refine .bind agree fun tree => .bind (agree_accept (by decide)) fun going => ?_
    split
    · exact agree_pure _
    · exact .bind (agree_expectAny closing) fun _ => agree_pure _
  by_cases paren : closing = ")"
  · subst paren
    exact .acceptParen (agree_pure _) more (.first takes)
  · refine .bind (agree_accept paren) fun ended => ?_
    split
    · exact agree_pure _
    · exact more

theorem takesIf_commaListStep (closing : String) (takes : item.Takes) (done : List Tree) :
    (commaListStep closing item done).TakesIf fun next => next.isLeft :=
  .later fun ended => by
    split
    · exact takesIf_pure Bool.noConfusion
    · exact .first takes

theorem agree_commaList (agree : Agree limit True 16 item item') (takes : item.Takes)
    (closing : String) :
    Agree limit True 16 (commaList closing item) (commaList closing item') :=
  .iterate (agree_commaListStep agree takes closing) (takesIf_commaListStep closing takes) []

theorem agree_separated {reserve : Nat} (agree : Agree limit True reserve item item')
    (takes : item.Takes) {mark : String} (other : mark ≠ ")") :
    Agree limit True reserve (separated mark item) (separated mark item') := by
  refine .iterate (fun done => ?_) (fun done => .first takes) []
  refine .bind agree fun tree => .bind (agree_accept other) fun going => ?_
  split
  · exact agree_pure _
  · exact agree_pure _

theorem agree_listUntil (agree : Agree limit True 16 item item') (takes : item.Takes)
    {closing : String} (other : closing ≠ ")") :
    Agree limit True 16 (listUntil closing item) (listUntil closing item') := by
  refine .iterate (fun done => ?_) (fun done => .later fun ended => ?_) []
  · refine .bind (agree_accept other) fun ended => ?_
    split
    · exact agree_pure _
    · exact .bind agree fun tree => agree_pure _
  · split
    · exact takesIf_pure Bool.noConfusion
    · exact .first takes

end Lists

/-! The ends of statements -/

section Names

variable {limit reserve : Nat} {mayClose : Prop}

@[simp] theorem agree_semicolon : Agree limit mayClose reserve semicolon semicolon := by
  unfold semicolon
  refine .bind (agree_accept (by decide)) fun accepted => ?_
  split
  · exact agree_pure ()
  · refine agree_requireHere
      (f := fun cursor => markOf? cursor.rest == some "\x7d" || cursor.rest.isEmpty ||
        cursor.afterBreak) fun cursor => ?_
    simp only [Bool.or_assoc, Cursor.ends_enclosed, isMark_enclosed (by decide : "\x7d" ≠ ")")]

/-! Names -/

@[simp] theorem agree_variableName (within : Within) :
    Agree limit mayClose reserve (variableName within) (variableName within) := by
  unfold variableName
  exact .bind agree_anyWord fun word => .bind (agree_require _) fun _ => agree_pure _

@[simp] theorem agree_declaredName (within : Within) :
    Agree limit mayClose reserve (declaredName within) (declaredName within) := by
  unfold declaredName
  exact .bind (agree_variableName within) fun id => .bind (agree_require _) fun _ => agree_pure _

@[simp] theorem takes_variableName (within : Within) : (variableName within).Takes :=
  .first takes_anyWord

@[simp] theorem takes_declaredName (within : Within) : (declaredName within).Takes :=
  .first (takes_variableName within)

@[simp] theorem agree_atVariableName (within : Within) :
    Agree limit mayClose reserve (atVariableName within) (atVariableName within) := by
  unfold atVariableName
  refine .bind agree_word? fun word? => ?_
  cases word? with
  | some word => exact agree_pure _
  | none => exact agree_pure false

@[simp] theorem agree_atDigit : Agree limit mayClose reserve atDigit atDigit :=
  agree_remaining (f := fun text => text.head?.any Char.isDigit ||
    (text.head? == some '.' && (text.drop 1).head?.any Char.isDigit)) (fun text => by
      cases text with
      | nil => rfl
      | cons c rest =>
        rw [drop_append_closing (Nat.le_add_left _ _), any_head?_append_closing (by decide),
          any_head?_append_closing (by decide), head?_append_closing (by decide)]) rfl

@[simp] theorem agree_atQuote : Agree limit mayClose reserve atQuote atQuote :=
  agree_remaining (f := fun text => text.head?.any fun c => c == '"' || c == '\x27')
    (any_head?_append_closing (by decide)) rfl

@[simp] theorem agree_atBacktick : Agree limit mayClose reserve atBacktick atBacktick :=
  agree_remaining (f := fun text => text.head? == some '\x60')
    (head?_append_closing (by decide)) rfl

@[simp] theorem agree_string (within : Within) :
    Agree limit mayClose reserve (string within) (string within) :=
  agree_quotedString _

@[simp] theorem takes_string (within : Within) : (string within).Takes :=
  takes_quotedString _

theorem expectRaw_apply (mark : String) (cursor : Cursor) :
    expectRaw mark cursor =
      if markOf? cursor.rest = some mark then some ((), cursor.advance mark.length) else none := by
  unfold expectRaw
  rw [bind_of_some (atMark_apply mark cursor)]
  by_cases isMark : markOf? cursor.rest = some mark
  · rw [if_pos isMark, isMark, beq_self_eq_true]
    rfl
  · rw [if_neg isMark, beq_eq_false_iff_ne.mpr isMark]
    rfl

theorem takes_expectRaw (mark : String) : (expectRaw mark).Takes := by
  intro cursor value after read _
  rw [expectRaw_apply] at read
  split at read
  · rename_i isMark
    obtain ⟨going, inside⟩ := length_of_markOf? isMark
    cases read
    rw [Cursor.rest_advance, List.length_drop]
    omega
  · cases read

@[simp] theorem takes_privateName : privateName.Takes :=
  .first (takes_expectRaw _)

theorem expectRaw_enclosed {mark : String} {cursor after : Cursor}
    (read : expectRaw mark cursor = some ((), after)) :
    expectRaw mark cursor.enclosed = some ((), after.extended) := by
  rw [expectRaw_apply] at read
  split at read
  · rename_i isMark
    cases read
    obtain ⟨going, inside⟩ := length_of_markOf? isMark
    have isMark' : markOf? cursor.extended.rest = some mark :=
      (markOf?_append_closing cursor.rest).trans isMark
    rw [Cursor.enclosed_of_inside (List.length_pos_iff.mp (Nat.lt_of_lt_of_le going inside)),
      expectRaw_apply, if_pos isMark', Cursor.advance_extended inside]
  · cases read

theorem expectRaw_enclosed_of_none {mark : String} (other : mark ≠ ")") {cursor : Cursor}
    (read : expectRaw mark cursor = none) : expectRaw mark cursor.enclosed = none := by
  rw [expectRaw_apply] at read ⊢
  split at read
  · cases read
  · rename_i noMark
    rw [if_neg (mt (markOf?_enclosed_eq other cursor).mp noMark)]

@[simp] theorem agree_privateName : Agree limit mayClose reserve privateName privateName :=
  fun cursor _ => by
    unfold privateName
    cases first : expectRaw "#" cursor with
    | none =>
      rw [bind_apply, bind_apply, first, expectRaw_enclosed_of_none (by decide) first]
      exact .failed
    | some found =>
      obtain ⟨_, after⟩ := found
      rw [bind_of_some first, bind_of_some (expectRaw_enclosed first),
        bind_of_some (word?_apply after), bind_of_some (word?_apply after.extended)]
      change Meets mayClose _
        ((ofOption (wordOf? (after.rest ++ closing)) >>= _) after.extended)
      rw [wordOf?_append_closing]
      cases isWord : wordOf? after.rest with
      | none => exact .failed
      | some word =>
        let tree := Tree.leaf (.privateName word.text)
        change Meets mayClose ((pass word.size >>= fun _ => pure tree) after)
          ((pass word.size >>= fun _ => pure tree) after.extended)
        have enough := (length_of_wordOf? isWord).2
        exact (meets_passExtended enough).bind fun _ last _ => .read tree last

end Names

end CssInline.Code.Grammar
