import CssInline.Code.Tree
import CssInline.Text.Blank
import CssInline.Text.Identifier

/-! A place in a code text, and readers that move on from it token by token. Between tokens the
cursor stands at the start of the next one. -/

namespace CssInline.Code

structure Cursor where
  rest : List Char
  line : Nat
  /-- A line break stands between the token before and this one. -/
  afterBreak : Bool
  /-- The comments between the token before and this one. -/
  comments : List Comment

/-! Blanks and comments -/

def isLineBreak (c : Char) : Bool :=
  c == '\n' || c == '\r' || c == '\u2028' || c == '\u2029'

/-- Blanks that end no line. -/
def isSpace (c : Char) : Bool :=
  c == '\ufeff' || (Text.isBlank c && !isLineBreak c && c != '\u0085')

def lineFeeds (text : List Char) : Nat :=
  text.count '\n'

theorem lineFeeds_append (first second : List Char) :
    lineFeeds (first ++ second) = lineFeeds first + lineFeeds second :=
  List.count_append

theorem lineFeeds_eq_zero {text : List Char} (none : ∀ c ∈ text, isLineBreak c = false) :
    lineFeeds text = 0 := by
  refine List.count_eq_zero.mpr fun member => ?_
  have isBreak := none '\n' member
  cases isBreak

/-- The inside of a comment up to its end mark, and what follows the mark. -/
def blockComment? : List Char → Option (List Char × List Char)
  | '*' :: '/' :: rest => some ([], rest)
  | c :: rest => (blockComment? rest).map fun (text, after) => (c :: text, after)
  | [] => none

theorem eq_of_blockComment? {rest text after : List Char}
    (found : blockComment? rest = some (text, after)) : rest = text ++ '*' :: '/' :: after := by
  induction rest using blockComment?.induct generalizing text with
  | case1 rest =>
    cases found
    rfl
  | case2 c rest notEnd ih =>
    rw [blockComment?] at found
    · obtain ⟨⟨text', after'⟩, deeper, same⟩ := Option.map_eq_some_iff.mp found
      cases same
      rw [ih deeper, List.cons_append]
    · exact notEnd
  | case3 => cases found

namespace Cursor

/-- `cursor` stands further on in the same text. -/
def Reaches (start cursor : Cursor) : Prop :=
  ∃ passed, start.rest = passed ++ cursor.rest ∧ cursor.line = start.line + lineFeeds passed

theorem Reaches.refl (cursor : Cursor) : cursor.Reaches cursor :=
  ⟨[], rfl, rfl⟩

theorem Reaches.trans {start middle cursor : Cursor} (first : start.Reaches middle)
    (second : middle.Reaches cursor) : start.Reaches cursor := by
  obtain ⟨passed, rest, line⟩ := first
  obtain ⟨passed', rest', line'⟩ := second
  refine ⟨passed ++ passed', ?_, ?_⟩
  · rw [rest, rest', List.append_assoc]
  · rw [line', line, lineFeeds_append, Nat.add_assoc]

theorem Reaches.line_le {start cursor : Cursor} (reaches : start.Reaches cursor) :
    start.line ≤ cursor.line := by
  obtain ⟨passed, _, line⟩ := reaches
  rw [line]
  exact Nat.le_add_right _ _

theorem Reaches.suffix {start cursor : Cursor} (reaches : start.Reaches cursor) :
    cursor.rest <:+ start.rest := by
  obtain ⟨passed, rest, _⟩ := reaches
  exact ⟨passed, rest.symm⟩

/-- Moves past blanks and comments, one of them at a time. -/
def settleFrom : Nat → Cursor → Option Cursor
  | 0, cursor => some cursor
  | fuel + 1, cursor =>
    match cursor.rest with
    | '/' :: '/' :: rest =>
      let text := rest.takeWhile fun c => !isLineBreak c
      let comments := cursor.comments ++ [⟨true, String.ofList text⟩]
      settleFrom fuel { cursor with rest := rest.dropWhile fun c => !isLineBreak c, comments }
    | '/' :: '*' :: rest =>
      match blockComment? rest with
      | none => none
      | some (text, after) =>
        settleFrom fuel {
          rest := after
          line := cursor.line + lineFeeds text
          afterBreak := cursor.afterBreak || text.any isLineBreak
          comments := cursor.comments ++ [⟨false, String.ofList text⟩] }
    | c :: rest =>
      if isLineBreak c then
        settleFrom fuel { cursor with
          rest, line := cursor.line + lineFeeds [c], afterBreak := true }
      else if isSpace c then settleFrom fuel { cursor with rest }
      else some cursor
    | [] => some cursor

theorem settleFrom_reaches (fuel : Nat) {cursor after : Cursor}
    (settled : cursor.settleFrom fuel = some after) : cursor.Reaches after := by
  induction fuel generalizing cursor with
  | zero =>
    cases settled
    exact Reaches.refl _
  | succ fuel ih =>
    obtain ⟨text, line, afterBreak, comments⟩ := cursor
    unfold settleFrom at settled
    split at settled
    · rename_i rest same
      cases same
      refine Reaches.trans ⟨'/' :: '/' :: rest.takeWhile fun c => !isLineBreak c, ?_, ?_⟩
        (ih settled)
      · simp
      · have plain : lineFeeds (rest.takeWhile fun c => !isLineBreak c) = 0 :=
          lineFeeds_eq_zero fun c member => by
            simpa using List.all_eq_true.mp List.all_takeWhile c member
        simpa [lineFeeds] using plain
    · rename_i rest same
      cases same
      split at settled
      · cases settled
      · rename_i comment after' found
        refine Reaches.trans ⟨'/' :: '*' :: comment ++ ['*', '/'], ?_, ?_⟩ (ih settled)
        · simp [eq_of_blockComment? found]
        · simp [lineFeeds]
    · rename_i c rest _ _ same
      cases same
      split at settled
      · exact Reaches.trans ⟨[c], rfl, rfl⟩ (ih settled)
      · rename_i notBreak
        split at settled
        · have plain : lineFeeds [c] = 0 := lineFeeds_eq_zero fun other member => by
            rw [List.mem_singleton.mp member]
            simpa using notBreak
          refine Reaches.trans ⟨[c], rfl, ?_⟩ (ih settled)
          rw [plain, Nat.add_zero]
        · cases settled
          exact Reaches.refl _
    · cases settled
      exact Reaches.refl _

/-- The cursor at the first token from here on. A comment must end. -/
def settle? (cursor : Cursor) : Option Cursor :=
  cursor.settleFrom (cursor.rest.length + 1)

def advance (cursor : Cursor) (count : Nat) : Cursor where
  rest := cursor.rest.drop count
  line := cursor.line + lineFeeds (cursor.rest.take count)
  afterBreak := false
  comments := []

theorem advance_reaches (cursor : Cursor) (count : Nat) : cursor.Reaches (cursor.advance count) :=
  ⟨cursor.rest.take count, (List.take_append_drop count _).symm, rfl⟩

end Cursor

/-- Reads a value and moves on, or fails. -/
@[ext]
structure Reader (α : Type) where
  run : Cursor → Option (α × Cursor)
  reaches : ∀ {cursor value after}, run cursor = some (value, after) → cursor.Reaches after

namespace Reader

instance : CoeFun (Reader α) fun _ => Cursor → Option (α × Cursor) := ⟨run⟩

instance : Monad Reader where
  pure value := {
    run cursor := some (value, cursor)
    reaches read := by
      cases read
      exact Cursor.Reaches.refl _ }
  bind reader next := {
    run cursor := (reader cursor).bind fun (value, after) => next value after
    reaches read := by
      obtain ⟨⟨value, middle⟩, first, second⟩ := Option.bind_eq_some_iff.mp read
      exact (reader.reaches first).trans ((next value).reaches second) }

theorem bind_apply (reader : Reader α) (next : α → Reader β) (cursor : Cursor) :
    (reader >>= next) cursor = (reader cursor).bind fun (value, after) => next value after := rfl

theorem bind_eq_some {reader : Reader α} {next : α → Reader β} {cursor after : Cursor} {value : β} :
    (reader >>= next) cursor = some (value, after) ↔
      ∃ first middle, reader cursor = some (first, middle) ∧
        next first middle = some (value, after) := by
  rw [bind_apply, Option.bind_eq_some_iff, Prod.exists]

instance : LawfulMonad Reader := by
  refine LawfulMonad.mk' Reader ?_ (fun _ _ => rfl) ?_
  · intro α reader
    ext1
    funext cursor
    change (reader cursor).bind some = reader cursor
    exact Option.bind_fun_some _
  · intro α β γ reader next more
    ext1
    funext cursor
    simp only [bind_apply, Option.bind_assoc]

def fail : Reader α where
  run _ := none
  reaches := nofun

/-- The cursor itself. -/
def here : Reader Cursor where
  run cursor := some (cursor, cursor)
  reaches read := by
    cases read
    exact Cursor.Reaches.refl _

def remaining : Reader (List Char) := do
  return (← here).rest

def lineNumber : Reader Nat := do
  return (← here).line

def afterBreak : Reader Bool := do
  return (← here).afterBreak

def advance (count : Nat) : Reader Unit where
  run cursor := some ((), cursor.advance count)
  reaches read := by
    cases read
    exact Cursor.advance_reaches _ count

def settle : Reader Unit where
  run cursor := cursor.settle?.map fun cursor => ((), cursor)
  reaches read := by
    obtain ⟨after, settled, same⟩ := Option.map_eq_some_iff.mp read
    cases same
    exact Cursor.settleFrom_reaches _ settled

def pass (count : Nat) : Reader Unit := do
  advance count
  settle

def require (condition : Bool) : Reader Unit :=
  if condition then pure () else fail

def ofOption (value : Option α) : Reader α :=
  match value with
  | some value => pure value
  | none => fail

/-- Tries `reader` only where `condition` holds. -/
def onlyIf (condition : Bool) (reader : Reader Bool) : Reader Bool :=
  if condition then reader else pure false

def attempt (reader : Reader α) : Reader (Option α) where
  run cursor :=
    match reader cursor with
    | some (value, after) => some (some value, after)
    | none => some (none, cursor)
  reaches read := by
    split at read
    · rename_i inside
      cases read
      exact reader.reaches inside
    · cases read
      exact Cursor.Reaches.refl _

/-- What `reader` would give; the cursor stays. -/
def ahead (reader : Reader α) : Reader (Option α) where
  run cursor := some ((reader cursor).map Prod.fst, cursor)
  reaches read := by
    cases read
    exact Cursor.Reaches.refl _

/-- Repeats `step` on its state until it gives a result. -/
def iterateFrom (step : α → Reader (α ⊕ β)) : Nat → α → Reader β
  | 0, _ => fail
  | fuel + 1, state => do
    match ← step state with
    | .inl state => iterateFrom step fuel state
    | .inr result => return result

/-- Every step but a bounded number of them takes a character. -/
def iterate (step : α → Reader (α ⊕ β)) (state : α) : Reader β := do
  iterateFrom step ((← remaining).length + 2) state

/-! Marks -/

def marks : List (List Char) :=
  [">>>=", "...", "===", "!==", "**=", "<<=", ">>=", ">>>", "&&=", "||=", "??=", "=>", "==", "!=",
    "<=", ">=", "&&", "||", "??", "?.", "++", "--", "+=", "-=", "*=", "/=", "%=", "&=", "|=", "^=",
    "<<", ">>", "**", "\x7b", "\x7d", "(", ")", "[", "]", ";", ",", "<", ">", "+", "-", "*", "/",
    "%", "&", "|", "^", "!", "~", "?", ":", "=", ".", "@", "#"].map String.toList

/-- The longest mark that `text` starts with. Before a digit the dot of `?.` belongs to the
number. -/
def markOf? (text : List Char) : Option String :=
  match marks.find? fun mark => mark.isPrefixOf text with
  | none => none
  | some mark =>
    if mark == ['?', '.'] && (text.drop 2).head?.any Char.isDigit then some "?"
    else some (String.ofList mark)

def mark? : Reader (Option String) := do
  return markOf? (← remaining)

def atMark (mark : String) : Reader Bool := do
  return (← mark?) == some mark

def accept (mark : String) : Reader Bool := do
  if ← atMark mark then
    pass mark.length
    return true
  else return false

def expect (mark : String) : Reader Unit := do
  require (← accept mark)

/-- Takes the mark and leaves what follows it as it is. -/
def expectRaw (mark : String) : Reader Unit := do
  require (← atMark mark)
  advance mark.length

/-- Takes one character, also out of a longer mark. -/
def acceptChar (c : Char) : Reader Bool := do
  if (← remaining).head? == some c then
    pass 1
    return true
  else return false

def atEnd : Reader Bool := do
  return (← remaining).isEmpty

/-! Words -/

def isWordStart (c : Char) : Bool :=
  Text.isIdentifierStart c || c == '$' || c == '_'

def isWordRest (c : Char) : Bool :=
  Text.isIdentifierRest c || c == '$' || c == '\u200c' || c == '\u200d'

end Reader

end CssInline.Code
