import CssInline.Proofs.Token

/-! What code starts with: the first token of a text decides about the leftmost part of the
expression that is read from it. -/

namespace CssInline.Code

/-! How trees open -/

/-- What an expression opens with, as far as no statement may open like this and stay an
expression. -/
inductive Opening where
  | plain
  | brace
  | function
  | classLike
  /-- The name `let` before a bracket. -/
  | letBracket
  /-- What only a statement opens with. -/
  | statement
deriving DecidableEq

/-- Whether what has this form opens with its first part. -/
def Form.isLed : Form → Bool
  | .member _ | .call _ | .tagged _ _ | .nonNull | .update _ false | .binary _ | .cast _
  | .conditional | .assign _ | .sequence => true
  | _ => false

/-- Whether it decides by itself what it opens with. -/
def Form.isOwn : Form → Bool
  | .commented _ => false
  | form => !form.isLed

def Form.opening : Form → Opening
  | .object | .objectPattern => .brace
  | .function _ _ _ => .function
  | .classLike _ => .classLike
  | _ => .plain

/-- Whether a name `let` is accessed with brackets. -/
def opensLetBracket (form : Form) (object : Tree) (properties : List Tree) : Bool :=
  match form, object.form with
  | .member chain, .name id =>
    chain != .optional && id == "let" && properties.head?.any Tree.isComputed
  | _, _ => false

namespace Tree

/-- What a tree opens with that has no comments. -/
def bareOpening : Tree → Opening
  | .node form (part :: parts) =>
    if form.isLed then
      if opensLetBracket form part parts then .letBracket else part.bareOpening
    else form.opening
  | .node form [] => form.opening

def opening (tree : Tree) : Opening :=
  tree.unplaced.bareOpening

theorem bare_of_own {form : Form} (own : form.isOwn = true) (parts : List Tree) :
    bare form parts = .node form parts := by
  unfold bare
  split
  · cases own
  · cases own
  · rfl

theorem unplaced_of_own {form : Form} (own : form.isOwn = true) (parts : List Tree) :
    (Tree.node form parts).unplaced = .node form (unplacedAll parts) := by
  rw [unplaced, bare_of_own own]

theorem bareOpening_of_own {form : Form} (own : form.isOwn = true) (parts : List Tree) :
    (Tree.node form parts).bareOpening = form.opening := by
  have noLead : form.isLed = false := by
    unfold Form.isOwn at own
    split at own
    · cases own
    · exact Bool.not_eq_true' _ |>.mp own
  cases parts with
  | nil => rfl
  | cons part parts => rw [bareOpening, noLead, if_neg Bool.false_ne_true]

theorem opening_of_own {form : Form} (own : form.isOwn = true) (parts : List Tree) :
    (Tree.node form parts).opening = form.opening := by
  rw [opening, unplaced_of_own own, bareOpening_of_own own]

theorem opening_of_led {form : Form} (led : form.isLed = true) {part : Tree} {parts : List Tree}
    (noBracket : opensLetBracket form part.unplaced (unplacedAll parts) = false) :
    (Tree.node form (part :: parts)).opening = part.opening := by
  unfold opening
  rw [unplaced, unplacedAll]
  unfold bare
  split
  · cases led
  · rfl
  · rw [bareOpening, led, noBracket, if_pos rfl, if_neg Bool.false_ne_true]

theorem unplaced_bare {form : Form} {parts : List Tree} (bared : unplacedAll parts = parts) :
    (bare form parts).unplaced = bare form parts := by
  have again {form : Form} {parts : List Tree} (bared : unplacedAll parts = parts)
      (kept : bare form parts = .node form parts) :
      (Tree.node form parts).unplaced = .node form parts := by rw [unplaced, bared, kept]
  cases form with
  | commented comments =>
    match parts, bared with
    | [], bared => exact again bared rfl
    | [tree], bared => exact (List.cons.inj bared).1
    | _ :: _ :: _, bared => exact again bared rfl
  | tagged line quasis => exact again bared rfl
  | _ => exact again bared rfl

theorem unplaced_unplaced (tree : Tree) : tree.unplaced.unplaced = tree.unplaced := by
  induction tree using Tree.inductionOn with
  | node form parts ih =>
    rw [unplaced]
    refine unplaced_bare ?_
    rw [unplacedAll_eq_map, unplacedAll_eq_map, List.map_map]
    exact List.map_congr_left ih

theorem opening_unplaced (tree : Tree) : tree.unplaced.opening = tree.opening := by
  rw [opening, opening, unplaced_unplaced]

end Tree

/-! How texts open -/

open Reader Grammar

/-- The keywords of statements other than declarations of functions and classes. -/
def statementWords : List String :=
  ["var", "const", "if", "for", "while", "do", "switch", "try", "return", "throw", "with",
    "debugger", "break", "continue"]

/-- The words that decide about what a text opens with. -/
def openingWords : List String :=
  ["async", "let", "function", "class"] ++ statementWords

theorem exists_keywordStatement {rules : Rules} {within : Within} {keyword : String}
    (member : keyword ∈ statementWords) (other : keyword ≠ "const") :
    ∃ reader, keywordStatement? rules within keyword = some reader := by
  unfold keywordStatement?
  split <;> first | exact ⟨_, rfl⟩ | simp_all [statementWords]

namespace Cursor

/-- Whether a keyword and another word follow each other on one line. -/
def atAsyncFunction (cursor : Cursor) : Bool :=
  ((do
    expectWord "async"
    require (!(← Reader.afterBreak))
    expectWord "function" : Reader Unit) cursor).isSome

def atLetBracket (cursor : Cursor) : Bool :=
  ((do
    let word ← anyWord
    require (word.text == "let")
    require (← atMark "[") : Reader Unit) cursor).isSome

def opening (cursor : Cursor) : Opening :=
  if cursor.rest.head? = some '{' then .brace
  else if cursor.rest.head? = some ';' then .statement
  else
    match keywordOf? cursor.rest with
    | some word =>
      if word = "function" ∨ cursor.atAsyncFunction then .function
      else if word = "class" then .classLike
      else if statementWords.contains word then .statement
      else if cursor.atLetBracket then .letBracket
      else .plain
    | none => if cursor.atLetBracket then .letBracket else .plain

variable {cursor after : Cursor}

theorem keyword_of_atAsyncFunction (isAsync : cursor.atAsyncFunction = true) :
    keywordOf? cursor.rest = some "async" := by
  obtain ⟨_, read⟩ := Option.isSome_iff_exists.mp isAsync
  obtain ⟨_, _, first, _⟩ := Reader.bind_eq_some.mp read
  exact (expectWord_eq_some.mp first).1

theorem atLetBracket_eq_true :
    cursor.atLetBracket = true ↔ ∃ word after, anyWord cursor = some (word, after) ∧
      word.text = "let" ∧ markOf? after.rest = some "[" := by
  unfold atLetBracket
  rw [Option.isSome_iff_exists]
  constructor
  · rintro ⟨_, read⟩
    obtain ⟨word, after, isWord, read⟩ := Reader.bind_eq_some.mp read
    obtain ⟨_, _, required, next⟩ := Reader.bind_eq_some.mp read
    obtain ⟨isLet, rfl⟩ := require_eq_some.mp required
    rw [Reader.bind_of_some (atMark_apply "[" _)] at next
    exact ⟨word, _, isWord, beq_iff_eq.mp isLet, beq_iff_eq.mp (require_eq_some.mp next).1⟩
  · rintro ⟨word, after, isWord, isLet, isBracket⟩
    refine ⟨((), after), ?_⟩
    rw [Reader.bind_of_some isWord, isLet]
    exact require_eq_some.mpr ⟨beq_iff_eq.mpr isBracket, rfl⟩

/-- Where no word stands, the text opens with a mark or a literal. -/
theorem opening_of_noWord (noWord : wordOf? cursor.rest = none)
    (noBrace : cursor.rest.head? ≠ some '{') (noSemicolon : cursor.rest.head? ≠ some ';') :
    cursor.opening = .plain := by
  have noBracket : ¬ cursor.atLetBracket = true := fun atBracket => by
    obtain ⟨word, _, isWord, _⟩ := atLetBracket_eq_true.mp atBracket
    rw [(anyWord_eq_some.mp isWord).1] at noWord
    cases noWord
  have noKeyword : keywordOf? cursor.rest = none := by rw [keywordOf?, noWord]
  simp [opening, noBrace, noSemicolon, noKeyword, noBracket]

theorem opening_of_head {head : Char} (starts : cursor.rest.head? = some head)
    (other : (!isWordStart head && head != '\\' && head != '{' && head != ';') = true) :
    cursor.opening = .plain := by
  simp only [Bool.and_eq_true, Bool.not_eq_true', bne_iff_ne] at other
  obtain ⟨⟨⟨noWord, noEscape⟩, noBrace⟩, noSemicolon⟩ := other
  apply opening_of_noWord
  · exact wordOf?_of_other (by simp [starts, noWord, noEscape])
  · simpa [starts] using noBrace
  · simpa [starts] using noSemicolon

theorem isOther_of_isDigit {digit : Char} (isDigit : digit.isDigit = true) :
    (!isWordStart digit && digit != '\\' && digit != '{' && digit != ';') = true := by
  have others : ∀ n ∈ List.range' 48 10,
      (!isWordStart (Char.ofNat n) && Char.ofNat n != '\\' && Char.ofNat n != '{' &&
        Char.ofNat n != ';') = true := by decide +kernel
  have bounds : 48 ≤ digit.toNat ∧ digit.toNat ≤ 57 := by
    simpa [Char.isDigit, UInt32.le_iff_toNat_le] using isDigit
  have other := others digit.toNat (List.mem_range'_1.mpr (by omega))
  rwa [Char.ofNat_toNat] at other

theorem opening_of_mark {mark : String} (isMark : markOf? cursor.rest = some mark)
    (noBrace : mark ≠ "\x7b") (noSemicolon : mark ≠ ";") : cursor.opening = .plain := by
  apply opening_of_noWord (wordOf?_of_mark isMark)
  · intro starts
    rw [markOf?_eq_brace.mpr starts] at isMark
    exact noBrace (Option.some.inj isMark).symm
  · intro starts
    rw [markOf?_eq_semicolon.mpr starts] at isMark
    exact noSemicolon (Option.some.inj isMark).symm

theorem head_of_wordOf? {word : Word} (isWord : wordOf? cursor.rest = some word) :
    cursor.rest.head? ≠ some '{' ∧ cursor.rest.head? ≠ some ';' := by
  constructor <;> intro starts
  · rw [wordOf?_of_mark (markOf?_eq_brace.mpr starts)] at isWord
    cases isWord
  · rw [wordOf?_of_mark (markOf?_eq_semicolon.mpr starts)] at isWord
    cases isWord

theorem wordOf?_of_keyword {keyword : String} (isKeyword : keywordOf? cursor.rest = some keyword) :
    ∃ word, wordOf? cursor.rest = some word ∧ word.text = keyword := by
  unfold keywordOf? at isKeyword
  split at isKeyword
  · rename_i word isWord
    split at isKeyword
    · cases isKeyword
    · exact ⟨word, isWord, Option.some.inj isKeyword⟩
  · cases isKeyword

theorem opening_of_keyword {keyword : String} (isKeyword : keywordOf? cursor.rest = some keyword) :
    cursor.opening =
      if keyword = "function" ∨ cursor.atAsyncFunction then .function
      else if keyword = "class" then .classLike
      else if statementWords.contains keyword then .statement
      else if cursor.atLetBracket then .letBracket
      else .plain := by
  obtain ⟨word, isWord, _⟩ := wordOf?_of_keyword isKeyword
  obtain ⟨noBrace, noSemicolon⟩ := head_of_wordOf? isWord
  rw [opening, if_neg noBrace, if_neg noSemicolon, isKeyword]

theorem atLetBracket_eq_false_of_keyword {keyword : String}
    (isKeyword : keywordOf? cursor.rest = some keyword) (other : keyword ≠ "let") :
    cursor.atLetBracket = false := by
  rw [← Bool.not_eq_true]
  intro atBracket
  obtain ⟨word, isWord, same⟩ := wordOf?_of_keyword isKeyword
  obtain ⟨word', _, isWord', isLet, _⟩ := atLetBracket_eq_true.mp atBracket
  rw [(anyWord_eq_some.mp isWord').1] at isWord
  cases isWord
  exact other (same.symm.trans isLet)

/-- Most words open neither a statement nor what looks like one. -/
theorem opening_of_otherKeyword {keyword : String}
    (isKeyword : keywordOf? cursor.rest = some keyword) (other : keyword ∉ openingWords) :
    cursor.opening = .plain := by
  have apart (word : String) (opens : word ∈ openingWords) : keyword ≠ word := by
    rintro rfl
    exact other opens
  have noStatement : keyword ∉ statementWords :=
    fun member => other (List.mem_append_right _ member)
  have notAsync : ¬ cursor.atAsyncFunction = true := fun isAsync => by
    rw [keyword_of_atAsyncFunction isAsync] at isKeyword
    exact apart "async" (by decide) (Option.some.inj isKeyword).symm
  rw [opening_of_keyword isKeyword,
    atLetBracket_eq_false_of_keyword isKeyword (apart "let" (by decide))]
  simp [apart "function" (by decide), apart "class" (by decide), notAsync, noStatement]

theorem opening_ne_brace (noBlock : markOf? cursor.rest ≠ some "\x7b") :
    cursor.opening ≠ .brace := by
  rw [opening, if_neg (mt markOf?_eq_brace.mpr noBlock)]
  repeat' split
  all_goals decide

/-- Where no statement starts, only the name `let` before a bracket looks like one. -/
theorem opening_of_noStatement (noBlock : markOf? cursor.rest ≠ some "\x7b")
    (noSemicolon : markOf? cursor.rest ≠ some ";")
    (noKeyword : ∀ keyword, keywordOf? cursor.rest = some keyword →
      keyword ∉ "function" :: "class" :: statementWords ∧ cursor.atAsyncFunction = false) :
    cursor.opening = if cursor.atLetBracket then .letBracket else .plain := by
  rw [opening, if_neg (mt markOf?_eq_brace.mpr noBlock),
    if_neg (mt markOf?_eq_semicolon.mpr noSemicolon)]
  cases isKeyword : keywordOf? cursor.rest with
  | none => rfl
  | some keyword =>
    obtain ⟨other, noFunction⟩ := noKeyword keyword isKeyword
    simp only [List.mem_cons, not_or] at other
    simp only [other, noFunction, Bool.false_eq_true, or_self, if_false, List.contains_eq_mem,
      decide_false]

end Cursor

end CssInline.Code
