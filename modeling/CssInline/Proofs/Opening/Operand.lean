import CssInline.Proofs.Grammar.Item
import CssInline.Proofs.Opening.Text

/-! What an operand opens with: the first of its accesses decides, and otherwise what they start
with. -/

namespace CssInline.Code

open Reader Grammar

namespace Grammar

variable {rules : Rules} {within : Within} {cursor after : Cursor} {tree : Tree}

/-! Operands -/

theorem variableName_eq_some {id : String} :
    variableName within cursor = some (id, after) ↔
      ∃ word, anyWord cursor = some (word, after) ∧ word.text = id ∧
        isVariableName within id = true := by
  unfold variableName
  rw [bind_eq_some]
  constructor
  · rintro ⟨word, middle, isWord, read⟩
    obtain ⟨_, _, required, same⟩ := bind_eq_some.mp read
    obtain ⟨isName, rfl⟩ := require_eq_some.mp required
    cases same
    exact ⟨word, isWord, rfl, isName⟩
  · rintro ⟨word, isWord, rfl, isName⟩
    refine ⟨word, after, isWord, ?_⟩
    rw [bind_of_some (require_eq_some.mpr ⟨isName, rfl⟩ : _ = some ((), after))]
    rfl

/-- What an operand opens with that `tree` was read for, if its accesses start at `after`. -/
def openingBefore (tree : Tree) (after : Cursor) : Opening :=
  if tree.unplaced.form = .name "let" ∧ markOf? after.rest = some "[" then .letBracket
  else tree.opening

theorem openingBefore_of_other (other : tree.unplaced.form ≠ .name "let") :
    openingBefore tree after = tree.opening :=
  if_neg fun both => other both.1

theorem openingBefore_name {word : Word} (isWord : anyWord cursor = some (word, after)) :
    openingBefore (.name word.text) after =
      if cursor.atLetBracket then .letBracket else .plain := by
  have same : ((Tree.name word.text).unplaced.form = .name "let" ∧
      markOf? after.rest = some "[") ↔ cursor.atLetBracket = true := by
    rw [Cursor.atLetBracket_eq_true]
    constructor
    · rintro ⟨isLet, isBracket⟩
      exact ⟨word, after, isWord, Form.name.inj isLet, isBracket⟩
    · rintro ⟨word', after', isWord', isLet, isBracket⟩
      rw [isWord] at isWord'
      cases isWord'
      exact ⟨congrArg Form.name isLet, isBracket⟩
  unfold openingBefore
  split
  · rename_i both
    rw [if_pos (same.mp both)]
  · rename_i other
    rw [if_neg (mt same.mpr other)]
    rfl

theorem opening_of_variableTree (read : variableTree within cursor = some (tree, after))
    (noFunction : cursor.atAsyncFunction = false) :
    openingBefore tree after = cursor.opening := by
  obtain ⟨id, _, named, same⟩ := bind_eq_some.mp read
  cases same
  obtain ⟨word, isWord, rfl, isName⟩ := variableName_eq_some.mp named
  obtain ⟨noBrace, noSemicolon⟩ := Cursor.head_of_wordOf? (anyWord_eq_some.mp isWord).1
  rw [openingBefore_name isWord]
  cases isKeyword : keywordOf? cursor.rest with
  | none => rw [Cursor.opening, if_neg noBrace, if_neg noSemicolon, isKeyword]
  | some keyword =>
    obtain ⟨word', isWord', rfl⟩ := Cursor.wordOf?_of_keyword isKeyword
    rw [(anyWord_eq_some.mp isWord).1] at isWord'
    cases isWord'
    have notReserved : word.text ∉ reservedWords := by
      simp only [isVariableName, Bool.and_eq_true, Bool.not_eq_true', List.contains_eq_mem,
        decide_eq_false_iff_not] at isName
      exact isName.1.1.1
    have apart (reserved : String) (member : reserved ∈ reservedWords) :
        word.text ≠ reserved := by
      intro same
      rw [same] at notReserved
      exact notReserved member
    have noStatement : word.text ∉ statementWords := fun member =>
      notReserved ((by decide : ∀ word ∈ statementWords, word ∈ reservedWords) _ member)
    rw [Cursor.opening_of_keyword isKeyword, noFunction]
    simp [apart "function" (by decide), apart "class" (by decide), noStatement]

/-- An operand that opens in one way and is no variable. -/
def OpensWith (opening : Opening) (tree : Tree) : Prop :=
  tree.opening = opening ∧ tree.unplaced.form ≠ .name "let"

theorem opensWith_own {form : Form} {opening : Opening} (own : form.isOwn = true)
    (opens : form.opening = opening) (other : form ≠ .name "let") (parts : List Tree) :
    OpensWith opening (.node form parts) :=
  ⟨(Tree.opening_of_own own parts).trans opens, by rwa [Tree.unplaced_of_own own]⟩

section Gives

variable {start : Cursor}

theorem gives_functionTree (named isDeclaration : Bool) :
    (functionTree rules within named isDeclaration).Gives start (OpensWith .function) := by
  unfold functionTree functionFrom
  repeat' first
    | exact .pure (opensWith_own rfl rfl (by simp) _)
    | with_reducible refine .last fun _ => ?_
    | split
    | dsimp only

theorem gives_classTree (named : Bool) :
    (classTree rules within named).Gives start (OpensWith .classLike) := by
  unfold classTree
  repeat' first
    | exact .pure (opensWith_own rfl rfl (by simp) _)
    | with_reducible refine .last fun _ => ?_
    | split

theorem gives_superAccess : (superAccess rules within).Gives start (OpensWith .plain) := by
  unfold superAccess
  repeat' first
    | exact .pure (opensWith_own rfl rfl (by simp) _)
    | exact .pure ⟨Tree.opening_of_led rfl rfl, by simp [Tree.unplaced, Tree.bare]⟩
    | with_reducible refine .last fun _ => ?_
    | split

theorem gives_importAccess : (importAccess rules within).Gives start (OpensWith .plain) := by
  unfold importAccess
  repeat' first
    | exact .pure (opensWith_own rfl rfl (by simp) _)
    | exact .pure ⟨Tree.opening_of_led rfl rfl, by simp [Tree.unplaced, Tree.bare]⟩
    | with_reducible refine .last fun _ => ?_
    | split

theorem gives_newExpression : (newExpression rules within).Gives start (OpensWith .plain) := by
  unfold newExpression
  repeat' first
    | exact .pure (opensWith_own rfl rfl (by simp) _)
    | with_reducible refine .last fun _ => ?_
    | split

theorem gives_keywordLeaf {keyword : String} {form : Form} (own : form.isOwn = true)
    (other : form ≠ .name "let") :
    (keywordLeaf keyword form).Gives start (OpensWith form.opening) := by
  unfold keywordLeaf
  exact .last fun _ => .pure (opensWith_own own rfl other _)

end Gives

theorem opening_of_given {opening : Opening} {reader : Reader Tree}
    (gives : reader.Gives cursor (OpensWith opening)) (read : reader cursor = some (tree, after))
    (same : cursor.opening = opening) : openingBefore tree after = cursor.opening := by
  obtain ⟨opens, other⟩ := gives (Cursor.Reaches.refl cursor) read
  rw [openingBefore_of_other other, opens, same]

theorem atAsyncFunction_apply (cursor : Cursor) :
    atAsyncFunction cursor = some (cursor.atAsyncFunction, cursor) := by
  simp only [atAsyncFunction, Cursor.atAsyncFunction, bind_apply, ahead, Option.bind_some]
  exact congrArg (fun found => some (found, cursor)) Option.isSome_map

theorem opening_of_wordExpression (read : wordExpression rules within cursor = some (tree, after)) :
    openingBefore tree after = cursor.opening := by
  unfold wordExpression at read
  rw [bind_of_some (keyword?_apply cursor)] at read
  split at read
  case h_1 isKeyword =>
    exact opening_of_given (gives_keywordLeaf rfl (by simp)) read
      (Cursor.opening_of_otherKeyword isKeyword (by decide))
  case h_2 isKeyword =>
    exact opening_of_given (gives_keywordLeaf rfl (by simp)) read
      (Cursor.opening_of_otherKeyword isKeyword (by decide))
  case h_3 isKeyword =>
    exact opening_of_given (gives_keywordLeaf rfl (by simp)) read
      (Cursor.opening_of_otherKeyword isKeyword (by decide))
  case h_4 isKeyword =>
    exact opening_of_given (gives_keywordLeaf rfl (by simp)) read
      (Cursor.opening_of_otherKeyword isKeyword (by decide))
  case h_5 isKeyword =>
    exact opening_of_given (gives_functionTree _ _) read
      (by rw [Cursor.opening_of_keyword isKeyword, if_pos (.inl rfl)])
  case h_6 isKeyword =>
    have noAsync : ¬ cursor.atAsyncFunction = true := fun isAsync => by
      rw [Cursor.keyword_of_atAsyncFunction isAsync] at isKeyword
      exact absurd isKeyword (by decide)
    exact opening_of_given (gives_classTree _) read
      (by simp [Cursor.opening_of_keyword isKeyword, noAsync])
  case h_7 isKeyword =>
    exact opening_of_given gives_superAccess read
      (Cursor.opening_of_otherKeyword isKeyword (by decide))
  case h_8 isKeyword =>
    exact opening_of_given gives_newExpression read
      (Cursor.opening_of_otherKeyword isKeyword (by decide))
  case h_9 isKeyword =>
    exact opening_of_given gives_importAccess read
      (Cursor.opening_of_otherKeyword isKeyword (by decide))
  case h_10 isKeyword =>
    rw [bind_of_some (atAsyncFunction_apply cursor)] at read
    split at read
    · rename_i isAsync
      exact opening_of_given (gives_functionTree _ _) read
        (by rw [Cursor.opening_of_keyword isKeyword, if_pos (.inr isAsync)])
    · rename_i noAsync
      exact opening_of_variableTree read (Bool.not_eq_true _ ▸ noAsync)
  case h_11 otherKeyword =>
    have noAsync : ¬ cursor.atAsyncFunction = true := fun isAsync =>
      otherKeyword (Cursor.keyword_of_atAsyncFunction isAsync)
    exact opening_of_variableTree read (Bool.not_eq_true _ ▸ noAsync)

/-- The openings that `primary` tries before words. -/
theorem gives_template : (template rules within).Gives cursor (OpensWith .plain) := by
  unfold template
  repeat' first
    | exact .pure (opensWith_own rfl rfl (by simp) _)
    | with_reducible refine .last fun _ => ?_

theorem gives_parenthesized : (parenthesized rules within).Gives cursor (OpensWith .plain) := by
  unfold parenthesized
  repeat' first
    | exact .pure (opensWith_own rfl rfl (by simp) _)
    | with_reducible refine .last fun _ => ?_

theorem gives_array : (array rules within).Gives cursor (OpensWith .plain) := by
  unfold array
  repeat' first
    | exact .pure (opensWith_own rfl rfl (by simp) _)
    | with_reducible refine .last fun _ => ?_

theorem gives_object : (object rules within).Gives cursor (OpensWith .brace) := by
  unfold object
  repeat' first
    | exact .pure (opensWith_own rfl rfl (by simp) _)
    | with_reducible refine .last fun _ => ?_

theorem gives_searchedName : searchedName.Gives cursor (OpensWith .plain) := by
  have private_ : privateName.Gives cursor (OpensWith .plain) := by
    unfold privateName
    repeat' first
      | exact .pure (opensWith_own rfl rfl (by simp) _)
      | with_reducible refine .last fun _ => ?_
  unfold searchedName
  exact .bind private_ fun tree opens => .last fun _ => .last fun _ => .pure opens

theorem gives_leaf {reader : Reader α} {form : α → Form}
    (plain : ∀ value, OpensWith .plain (.leaf (form value))) :
    (do return .leaf (form (← reader)) : Reader Tree).Gives cursor (OpensWith .plain) :=
  .last fun value => .pure (plain value)

theorem gives_element : (element rules within).Gives cursor (OpensWith .plain) := by
  unfold element
  repeat' first
    | exact .pure (opensWith_own rfl rfl (by simp) _)
    | with_reducible refine .last fun _ => ?_
    | split

theorem opening_of_primary
    (elements : ∀ within, (rules .element within).Gives cursor (OpensWith .plain))
    (read : primary rules within cursor = some (tree, after)) :
    openingBefore tree after = cursor.opening := by
  unfold primary at read
  rw [bind_of_some (rfl : atQuote cursor = some (_, cursor))] at read
  split at read
  case isTrue isQuote =>
    obtain ⟨quote, starts, isQuote⟩ := Option.any_eq_true _ _ |>.mp isQuote
    refine opening_of_given (gives_leaf fun lexeme => ?_) read ?_
    · exact opensWith_own rfl rfl (by simp) _
    · rw [Bool.or_eq_true, beq_iff_eq, beq_iff_eq] at isQuote
      rcases isQuote with rfl | rfl <;> exact Cursor.opening_of_head starts (by decide +kernel)
  rw [bind_of_some (rfl : atDigit cursor = some (_, cursor))] at read
  split at read
  case isTrue isDigit =>
    refine opening_of_given (gives_leaf fun raw => ?_) read ?_
    · exact opensWith_own rfl rfl (by simp) _
    · rw [Bool.or_eq_true, Bool.and_eq_true, beq_iff_eq] at isDigit
      cases isDigit with
      | inl isDigit =>
        obtain ⟨digit, starts, isDigit⟩ := Option.any_eq_true _ _ |>.mp isDigit
        exact Cursor.opening_of_head starts (Cursor.isOther_of_isDigit isDigit)
      | inr isDot => exact Cursor.opening_of_head isDot.1 (by decide +kernel)
  rw [bind_of_some (rfl : atBacktick cursor = some (_, cursor))] at read
  split at read
  case isTrue isBacktick =>
    exact opening_of_given gives_template read
      (Cursor.opening_of_head (beq_iff_eq.mp isBacktick) (by decide +kernel))
  rw [bind_of_some (mark?_apply cursor)] at read
  split at read
  case h_1 isMark =>
    exact opening_of_given gives_parenthesized read
      (Cursor.opening_of_mark isMark (by decide) (by decide))
  case h_2 isMark =>
    exact opening_of_given gives_array read
      (Cursor.opening_of_mark isMark (by decide) (by decide))
  case h_3 isMark =>
    exact opening_of_given gives_object read
      (by rw [Cursor.opening, if_pos (markOf?_eq_brace.mp isMark)])
  case h_4 isMark =>
    refine opening_of_given (gives_leaf fun raw => ?_) read
      (Cursor.opening_of_mark isMark (by decide) (by decide))
    exact opensWith_own rfl rfl (by simp) _
  case h_5 isMark =>
    refine opening_of_given (gives_leaf fun raw => ?_) read
      (Cursor.opening_of_mark isMark (by decide) (by decide))
    exact opensWith_own rfl rfl (by simp) _
  case h_6 isMark =>
    exact opening_of_given gives_searchedName read
      (Cursor.opening_of_mark isMark (by decide) (by decide))
  case h_7 isMark =>
    refine opening_of_given ?_ read (Cursor.opening_of_mark isMark (by decide) (by decide))
    exact .last fun _ => .bind (elements _) fun tree opens => .last fun _ => .pure opens
  case h_8 => exact opening_of_wordExpression read

/-! Accesses -/

theorem opensLetBracket_of_other {form : Form} (other : tree.unplaced.form ≠ .name "let")
    (parts : List Tree) : opensLetBracket form tree.unplaced parts = false := by
  unfold opensLetBracket
  split
  · rename_i id isName
    have noLet : id ≠ "let" := by
      rintro rfl
      exact other isName
    simp [noLet]
  · rfl

theorem opensLetBracket_optional (tree : Tree) (parts : List Tree) :
    opensLetBracket (.member .optional) tree parts = false := by
  unfold opensLetBracket
  split
  · rename_i same _
    cases same
    rfl
  · rfl

theorem opensWith_led {form : Form} {parts : List Tree} (led : form.isLed = true)
    (other : ∀ parts, (Tree.bare form parts).form ≠ .name "let")
    (noBracket : opensLetBracket form tree.unplaced (Tree.unplacedAll parts) = false) :
    OpensWith tree.opening (.node form (tree :: parts)) :=
  ⟨Tree.opening_of_led led noBracket, other _⟩

theorem opensWith_call (chain : Chain) (parts : List Tree) :
    OpensWith tree.opening (.node (.call chain) (tree :: parts)) :=
  opensWith_led rfl (by simp [Tree.bare]) rfl

theorem gives_computedName :
    (computedName rules within).Gives cursor fun property =>
      property.unplaced.isComputed = true := by
  unfold computedName
  repeat' first | exact .pure rfl | with_reducible refine .last fun _ => ?_

theorem gives_accessedName :
    accessedName.Gives cursor fun property => property.unplaced.isComputed = false := by
  have isPrivate : privateName.Gives cursor fun property =>
      property.unplaced.isComputed = false := by
    unfold privateName
    repeat' first | exact .pure rfl | with_reducible refine .last fun _ => ?_
  unfold accessedName
  repeat' first
    | exact .pure rfl
    | exact isPrivate
    | with_reducible refine .last fun _ => ?_
    | split

theorem gives_optionalStep (access : Access) :
    (optionalStep rules within access).Gives cursor fun next =>
      OpensWith access.tree.opening next.tree := by
  unfold optionalStep
  repeat' first
    | exact .pure (opensWith_call _ _)
    | exact .pure (opensWith_led rfl (by simp [Tree.bare]) (opensLetBracket_optional _ _))
    | with_reducible refine .last fun _ => ?_
    | split

theorem gives_taggedStep (line : Nat) (access : Access) (types : Tree) :
    (taggedStep rules within line access types).Gives cursor fun next =>
      OpensWith access.tree.opening next.tree := by
  unfold taggedStep
  repeat' first
    | exact .pure (opensWith_led rfl (by simp [Tree.bare]) rfl)
    | with_reducible refine .last fun _ => ?_

/-- What a step of an access gives: a longer access that opens in this way, or the end. -/
def StepOpensWith (opening : Opening) : Access ⊕ Tree → Prop :=
  Sum.elim (fun access => OpensWith opening access.tree) fun tree => tree.opening = opening

/-- Only brackets after the name `let` make an access open in another way than it does without
them. -/
theorem opensWith_accessStep {line : Nat} {calls : Bool} {access : Access} {next : Access ⊕ Tree}
    (noBracket : access.tree.unplaced.form = .name "let" → markOf? cursor.rest ≠ some "[")
    (read : accessStep rules within line calls access cursor = some (next, after)) :
    StepOpensWith access.tree.opening next := by
  have here := Cursor.Reaches.refl cursor
  have done : (pure (.inr access.tree) : Reader (Access ⊕ Tree)).Gives cursor
      (StepOpensWith access.tree.opening) := .pure rfl
  have tagged (types : Tree) : (do return .inl (← taggedStep rules within line access types) :
      Reader (Access ⊕ Tree)).Gives cursor (StepOpensWith access.tree.opening) :=
    .bind (gives_taggedStep line access types) fun _ opens => .pure opens
  unfold accessStep at read
  rw [bind_of_some (rfl : atBacktick cursor = some (_, cursor))] at read
  split at read
  · exact tagged _ here read
  rw [bind_of_some (mark?_apply cursor)] at read
  split at read
  case h_1 =>
    refine Gives.last (fun _ => .bind gives_accessedName fun property noBracket => .pure ?_)
      here read
    refine opensWith_led rfl (by simp [Tree.bare]) ?_
    unfold opensLetBracket
    split
    · simp [Tree.unplacedAll, noBracket]
    · rfl
  -- The only step that can make `let [` of an access.
  case h_2 bracket =>
    refine Gives.last (fun property => .pure ?_) here read
    have noLet : access.tree.unplaced.form ≠ .name "let" := fun isLet => noBracket isLet bracket
    exact opensWith_led rfl (by simp [Tree.bare]) (opensLetBracket_of_other noLet _)
  case h_3 =>
    split at read
    · refine Gives.last (fun _ => .pure ?_) here read
      exact opensWith_call _ _
    · exact done here read
  case h_4 =>
    refine Gives.last (fun _ => .bind (gives_optionalStep access) fun _ opens => .pure ?_) here read
    exact opens
  case h_5 =>
    refine Gives.last (fun _ => ?_) here read
    split
    · exact .last fun _ => .pure (opensWith_led rfl (by simp [Tree.bare]) rfl)
    · exact done
  case h_6 =>
    split at read
    · unfold typedStep at read
      refine Gives.last (fun _ => ?_) here read
      split
      · exact done
      · refine .last fun _ => ?_
        split
        · exact tagged _
        · exact .last fun _ => .pure (opensWith_call _ _)
    · exact done here read
  case h_7 => exact done here read

theorem gives_accessStep {opening : Opening} {access : Access}
    (opens : OpensWith opening access.tree) (line : Nat) (calls : Bool) :
    (accessStep rules within line calls access).Gives cursor (StepOpensWith opening) := by
  intro start _ next after read
  rw [← opens.1]
  exact opensWith_accessStep (fun isLet => absurd isLet opens.2) read

theorem opensWith_firstStep {line : Nat} {calls : Bool} {next : Access ⊕ Tree}
    (read : accessStep rules within line calls (.start tree) cursor = some (next, after)) :
    StepOpensWith (openingBefore tree cursor) next := by
  by_cases bracket : tree.unplaced.form = .name "let" ∧ markOf? cursor.rest = some "["
  case neg =>
    rw [openingBefore, if_neg bracket]
    exact opensWith_accessStep (fun isLet isBracket => bracket ⟨isLet, isBracket⟩) read
  case pos =>
    obtain ⟨isLet, isBracket⟩ := bracket
    obtain ⟨rest, starts⟩ := prefix_of_markOf? isBracket
    have noBacktick : atBacktick cursor = some (false, cursor) := by
      change some ((cursor.rest.head? == some '\x60'), cursor) = _
      rw [← starts]
      rfl
    unfold accessStep at read
    rw [bind_of_some noBacktick, if_neg Bool.false_ne_true, bind_of_some (mark?_apply cursor),
      isBracket] at read
    obtain ⟨property, _, isProperty, same⟩ := bind_eq_some.mp read
    cases same
    have computed := gives_computedName (Cursor.Reaches.refl cursor) isProperty
    rw [openingBefore, if_pos ⟨isLet, isBracket⟩]
    refine ⟨?_, by simp [Access.member, Tree.unplaced, Tree.bare]⟩
    simp [Access.member, Access.start, Tree.opening, Tree.unplaced, Tree.unplacedAll, Tree.bare,
      Tree.bareOpening, Form.isLed, opensLetBracket, isLet, computed]

theorem opening_of_access
    (elements : ∀ within, (rules .element within).Gives cursor (OpensWith .plain)) {calls : Bool}
    (read : access rules within calls cursor = some (tree, after)) :
    tree.opening = cursor.opening := by
  unfold access at read
  rw [bind_of_some (rfl : lineNumber cursor = some (cursor.line, cursor))] at read
  obtain ⟨first, middle, isFirst, read⟩ := bind_eq_some.mp read
  rw [← opening_of_primary elements isFirst]
  cases iterate_eq_some read with
  | inl done => exact opensWith_firstStep done
  | inr more =>
    obtain ⟨next, _, fuel, step, read⟩ := more
    exact Gives.iterateFrom (fun _ opens => gives_accessStep opens _ _) fuel
      (opensWith_firstStep step) (Cursor.Reaches.refl _) read

end Grammar

end CssInline.Code
