import CssInline.Code.Cursor
import CssInline.Proofs.Exposure.Step

/-! Placeholders are exposed where code has the characters of a template literal. The lexical
structure of code is given by a grammar of its own, and the scanner is shown to keep in step with
it. -/

namespace CssInline.Code

/-! The lexical structure of code -/

/-- What is in quotes. -/
inductive Quoted (mark : Char) : List Char → Prop
  | nil : Quoted mark []
  | character {c : Char} {rest : List Char} :
      c ≠ mark → c ≠ '\\' → c ≠ '\n' → c ≠ '\r' → Quoted mark rest → Quoted mark (c :: rest)
  | escape {rest : List Char} (c : Char) : Quoted mark rest → Quoted mark ('\\' :: c :: rest)
  | lineContinuation {rest : List Char} :
      Quoted mark rest → Quoted mark ('\\' :: '\r' :: '\n' :: rest)

/-- What a text is part of: code, which is the last of the whole text or is closed by a brace, or a
template literal, which is closed by a backtick. -/
inductive Stretch where
  | code (isLast : Bool)
  | template

/-- As many characters as `text` has, none of which is a character of a template literal. -/
def unmarked (text : List Char) : List Bool :=
  text.map fun _ => false

/-- Which characters of a text are characters of a template literal, and no escape. Other
characters than those of comments, strings, template literals and braces stand for themselves. Of an
escape only the backslash and the character after it are told: the others are digits and braces,
with which no placeholder starts.

In regular code no comment opens with a slash after its star, and no comment ends with another line
break than a line feed. -/
inductive Lexed (isRegular : Prop) : Stretch → List Char → List Bool → Prop
  | codeEnd {isLast : Bool} : Lexed isRegular (.code isLast) [] []
  | lineComment {isLast : Bool} {text rest : List Char} {marks : List Bool} :
      (∀ c ∈ text, isLineBreak c = false) → rest.head?.elim isLast isLineBreak = true →
      (isRegular → ∀ c ∈ rest.head?, c = '\n') → Lexed isRegular (.code isLast) rest marks →
      Lexed isRegular (.code isLast) ('/' :: '/' :: (text ++ rest))
        (false :: false :: (unmarked text ++ marks))
  | blockComment {isLast : Bool} {text rest : List Char} {marks : List Bool} :
      blockComment? (text ++ '*' :: '/' :: rest) = some (text, rest) →
      (isRegular → text.head? ≠ some '/') → Lexed isRegular (.code isLast) rest marks →
      Lexed isRegular (.code isLast) ('/' :: '*' :: (text ++ '*' :: '/' :: rest))
        (false :: false :: (unmarked text ++ false :: false :: marks))
  | string {isLast : Bool} {mark : Char} {text rest : List Char} {marks : List Bool} :
      mark = '\'' ∨ mark = '"' → Quoted mark text → Lexed isRegular (.code isLast) rest marks →
      Lexed isRegular (.code isLast) (mark :: (text ++ mark :: rest))
        (false :: (unmarked text ++ false :: marks))
  | template {isLast : Bool} {text rest : List Char} {inner marks : List Bool} :
      Lexed isRegular .template text inner → Lexed isRegular (.code isLast) rest marks →
      Lexed isRegular (.code isLast) ('\x60' :: (text ++ '\x60' :: rest))
        (false :: (inner ++ false :: marks))
  | braces {isLast : Bool} {text rest : List Char} {inner marks : List Bool} :
      Lexed isRegular (.code false) text inner → Lexed isRegular (.code isLast) rest marks →
      Lexed isRegular (.code isLast) ('{' :: (text ++ '}' :: rest))
        (false :: (inner ++ false :: marks))
  | other {isLast : Bool} {c : Char} {rest : List Char} {marks : List Bool} :
      c ∉ ['\'', '"', '\x60', '{', '}'] →
      (c = '/' → rest.head? ≠ some '/' ∧ rest.head? ≠ some '*') →
      Lexed isRegular (.code isLast) rest marks →
      Lexed isRegular (.code isLast) (c :: rest) (false :: marks)
  | templateEnd : Lexed isRegular .template [] []
  | character {c : Char} {rest : List Char} {marks : List Bool} :
      c ∉ ['\x60', '\\'] → (c = '$' → rest.head? ≠ some '{') →
      Lexed isRegular .template rest marks → Lexed isRegular .template (c :: rest) (true :: marks)
  | escape {rest : List Char} {marks : List Bool} (c : Char) :
      Lexed isRegular .template rest marks →
      Lexed isRegular .template ('\\' :: c :: rest) (false :: false :: marks)
  | substitution {text rest : List Char} {inner marks : List Bool} :
      Lexed isRegular (.code false) text inner → Lexed isRegular .template rest marks →
      Lexed isRegular .template ('$' :: '{' :: (text ++ '}' :: rest))
        (false :: false :: (inner ++ false :: marks))

end CssInline.Code

namespace CssInline.Placeholder

open Code

variable {stem : List Char} {count : Nat}

/-! Exposing placeholders by their marks -/

def exposeMarkedFrom (stem : List Char) (count : Nat) : Nat → List Char → List Bool → List Char
  | 0, _, _ => []
  | _ + 1, [], _ => []
  | fuel + 1, c :: rest, marks =>
    match take? stem count (c :: rest), marks.headD false with
    | some (id, after), true =>
      '$' :: '{' :: name stem id ++ '}' ::
        exposeMarkedFrom stem count fuel after (marks.drop (name stem id).length)
    | _, _ => c :: exposeMarkedFrom stem count fuel rest marks.tail

/-- The text in which a placeholder is made a substitution just if its first character is marked. -/
def exposeMarked (stem : List Char) (count : Nat) (text : List Char) (marks : List Bool) :
    List Char :=
  exposeMarkedFrom stem count text.length text marks

theorem exposeMarkedFrom_of_enough (isStem : IsStem stem) {fuel fuel' : Nat} {text : List Char}
    (enough : text.length ≤ fuel) (enough' : text.length ≤ fuel') (marks : List Bool) :
    exposeMarkedFrom stem count fuel text marks = exposeMarkedFrom stem count fuel' text marks := by
  induction fuel generalizing fuel' text marks with
  | zero =>
    rw [List.length_eq_zero_iff.mp (Nat.le_zero.mp enough)]
    cases fuel' <;> rfl
  | succ fuel ih =>
    cases text with
    | nil => cases fuel' <;> rfl
    | cons c rest =>
      obtain ⟨fuel', rfl⟩ := Nat.exists_eq_succ_of_ne_zero (Nat.ne_of_gt (Nat.lt_of_lt_of_le
        (Nat.succ_pos rest.length) enough'))
      rw [List.length_cons] at enough enough'
      simp only [exposeMarkedFrom]
      split
      · rename_i id after taken _
        have shorter := length_of_take? isStem.nonempty taken
        rw [List.length_cons] at shorter
        rw [ih (by omega) (by omega : after.length ≤ fuel')]
      · rw [ih (by omega) (by omega : rest.length ≤ fuel')]

@[simp] theorem exposeMarked_nil (marks : List Bool) : exposeMarked stem count [] marks = [] := rfl

theorem exposeMarked_of_take? (isStem : IsStem stem) {text after : List Char} {id : Nat}
    (taken : take? stem count text = some (id, after)) (marks : List Bool) :
    exposeMarked stem count text (true :: marks) =
      '$' :: '{' :: name stem id ++ '}' ::
        exposeMarked stem count after ((true :: marks).drop (name stem id).length) := by
  have shorter := length_of_take? isStem.nonempty taken
  cases text with
  | nil => cases shorter
  | cons c rest =>
    rw [List.length_cons] at shorter
    simp only [exposeMarked, List.length_cons, exposeMarkedFrom, taken, List.headD_cons]
    rw [exposeMarkedFrom_of_enough isStem (Nat.le_of_lt_succ shorter) (Nat.le_refl _)]

theorem exposeMarked_of_none {c : Char} {rest : List Char}
    (missing : take? stem count (c :: rest) = none) (marks : List Bool) :
    exposeMarked stem count (c :: rest) marks = c :: exposeMarked stem count rest marks.tail := by
  simp only [exposeMarked, List.length_cons, exposeMarkedFrom, missing]

@[simp] theorem exposeMarked_of_false (c : Char) (rest : List Char) (marks : List Bool) :
    exposeMarked stem count (c :: rest) (false :: marks) =
      c :: exposeMarked stem count rest marks := by
  simp only [exposeMarked, List.length_cons, exposeMarkedFrom]
  split
  · contradiction
  · rfl

@[simp] theorem exposeMarked_unmarked (text rest : List Char) (marks : List Bool) :
    exposeMarked stem count (text ++ rest) (unmarked text ++ marks) =
      text ++ exposeMarked stem count rest marks := by
  induction text with
  | nil => rfl
  | cons c text ih =>
    rw [unmarked, List.map_cons, List.cons_append, List.cons_append, exposeMarked_of_false]
    exact congrArg (c :: ·) ih

/-! Names in the text -/

theorem exposeMarked_name_end (isStem : IsStem stem) {id : Nat} {c : Char} {ending : List Char}
    (passed : List Char) (begins : name stem id = c :: passed ++ ending) (after : List Char)
    (marks : List Bool) :
    exposeMarked stem count (ending ++ after) marks =
      ending ++ exposeMarked stem count after (marks.drop ending.length) := by
  induction ending generalizing passed marks with
  | nil => rfl
  | cons d ending ih =>
    have inside : take? stem count (d :: (ending ++ after)) = none :=
      take?_inside isStem begins (List.cons_ne_nil c passed) (List.cons_ne_nil d ending) after
    have next := ih (passed ++ [d]) (by rw [begins]; simp) marks.tail
    rw [List.cons_append, exposeMarked_of_none inside, next, List.length_cons, List.drop_tail]
    rfl

/-! Texts on which the scanner and the marks agree -/

/-- Whether `expose` follows the marks from a region on. -/
def Agrees (stem : List Char) (count : Nat) (region : Region) (outer : List Region)
    (text : List Char) (marks : List Bool) : Prop :=
  ∀ previous,
    exposing stem count ⟨region, outer, previous⟩ text = exposeMarked stem count text marks

/-- Whether characters in a region are characters of a template literal. -/
def Region.isTemplate : Region → Bool
  | .template => true
  | _ => false

variable {region : Region} {outer : List Region} {c : Char} {rest : List Char} {marks : List Bool}

/-- A character that leaves the region as it is, and perhaps starts a placeholder. -/
theorem Agrees.stays (isStem : IsStem stem) (unquoted : ∀ mark, region ≠ .quoted mark)
    (here : Stays region c rest)
    (agrees : Agrees stem count region outer rest marks) :
    Agrees stem count region outer (c :: rest) (region.isTemplate :: marks) := by
  intro previous
  have passing (missing : exposeAt? stem count ⟨region, outer, previous⟩ (c :: rest) = none) :
      exposing stem count ⟨region, outer, previous⟩ (c :: rest) =
        c :: exposeMarked stem count rest marks := by
    rw [exposing_of_stays isStem here missing, agrees]
  cases taken : take? stem count (c :: rest) with
  | none =>
    rw [passing (exposeAt?_of_none _ taken), exposeMarked_of_none taken]
    rfl
  | some found =>
    obtain ⟨id, after⟩ := found
    obtain ⟨ending, begins, same⟩ := name_of_take? isStem taken
    -- Both ways through the name lead to the same place, so what holds behind its first character
    -- holds behind the whole of it.
    have behind : exposing stem count ⟨region, outer, (name stem id).getLast?⟩ after =
        exposeMarked stem count after (marks.drop ending.length) := by
      rw [same] at agrees
      have passed : exposing stem count _ _ = _ :=
        exposing_name_end count isStem unquoted [] begins outer after
      exact List.append_cancel_left (passed.symm.trans
        ((agrees _).trans (exposeMarked_name_end isStem [] begins after marks)))
    have length : (name stem id).length = ending.length + 1 := by rw [begins, List.length_cons]
    cases region with
    | quoted mark => exact absurd rfl (unquoted mark)
    | template =>
      have marked := exposeMarked_of_take? isStem taken marks
      rw [length, List.drop_succ_cons] at marked
      rw [exposing_of_exposed isStem taken rfl, behind, Region.isTemplate, marked]
      simp
    | code braces =>
      change _ = exposeMarked stem count (c :: rest) (false :: marks)
      rw [exposeMarked_of_false]
      by_cases apart : (Scanner.mk (.code braces) outer previous).isApart after = true
      · have whole : c :: exposeMarked stem count rest marks =
            name stem id ++ exposeMarked stem count after (marks.drop ending.length) := by
          rw [same, begins]
          exact congrArg (c :: ·) (exposeMarked_name_end isStem [] begins after marks)
        have exposed : (Scanner.mk (.code braces) outer previous).exposed? (name stem id) after =
            some (name stem id) := if_pos apart
        rw [exposing_of_exposed isStem taken exposed, behind, whole]
      · apply passing
        cases exposed : exposeAt? stem count ⟨.code braces, outer, previous⟩ (c :: rest) with
        | none => rfl
        | some found =>
          obtain ⟨other, takenToo, written, _⟩ := exposeAt?_eq_some.mp exposed
          rw [taken] at takenToo
          cases takenToo
          simp [Scanner.exposed?, apart] at written

/-- A piece of text that starts no placeholder and is passed over as a whole. -/
theorem Agrees.step (isStem : IsStem stem) (region : Region) (outer : List Region) (c : Char)
    (passed : List Char) {next : Region} {outerNext : List Region} (other : isNameChar c = false)
    (step : ∀ previous, (Scanner.mk region outer previous).stepRegion c (passed ++ rest) =
      (⟨next, outerNext, previous⟩, passed.length))
    (agrees : Agrees stem count next outerNext rest marks) :
    Agrees stem count region outer (c :: (passed ++ rest))
      (false :: (unmarked passed ++ marks)) := by
  intro previous
  have missing : exposeAt? stem count ⟨region, outer, previous⟩ (c :: (passed ++ rest)) = none :=
    exposeAt?_of_none _ (take?_of_not_name isStem other _)
  rw [exposing_of_step isStem missing (step previous), List.take_left, List.drop_left, agrees,
    exposeMarked_of_false, exposeMarked_unmarked]
  rfl

theorem exposing_quoted (isStem : IsStem stem) {mark : Char} (isMark : mark = '\'' ∨ mark = '"')
    {text : List Char} (quoted : Quoted mark text) (previous : Option Char) :
    exposing stem count ⟨.quoted mark, region :: outer, previous⟩ (text ++ mark :: rest) =
      text ++ mark :: exposing stem count ⟨region, outer, some mark⟩ rest := by
  have missing (previous : Option Char) (text : List Char) :
      exposeAt? stem count ⟨.quoted mark, region :: outer, previous⟩ text = none :=
    exposeAt?_quoted rfl text
  induction quoted generalizing previous with
  | nil =>
    have apart : mark ≠ '\\' := by rcases isMark with rfl | rfl <;> decide
    have step : (Scanner.mk (.quoted mark) (region :: outer) previous).stepRegion mark rest =
        (⟨region, outer, previous⟩, 0) := by
      simp [Scanner.stepRegion, apart, Scanner.leave]
    rw [List.nil_append, exposing_of_step isStem (missing previous _) step]
    rfl
  | @character c text notMark notEscape _ _ _ ih =>
    have stays : Stays (.quoted mark) c (text ++ mark :: rest) := fun outer previous => by
      simp [Scanner.stepRegion, notMark, notEscape]
    rw [List.cons_append, exposing_of_stays isStem stays (missing previous _), ih]
    rfl
  | @escape text c _ ih =>
    have step : (Scanner.mk (.quoted mark) (region :: outer) previous).stepRegion '\\'
        (c :: text ++ mark :: rest) = (⟨.quoted mark, region :: outer, previous⟩, 1) := by
      simp [Scanner.stepRegion]
    rw [List.cons_append, exposing_of_step isStem (missing previous _) step]
    exact congrArg ('\\' :: c :: ·) (ih _)
  | @lineContinuation text _ ih =>
    have step : (Scanner.mk (.quoted mark) (region :: outer) previous).stepRegion '\\'
        ('\r' :: '\n' :: text ++ mark :: rest) =
          (⟨.quoted mark, region :: outer, previous⟩, 1) := by
      simp [Scanner.stepRegion]
    have apart : '\n' ≠ mark := by rcases isMark with rfl | rfl <;> decide
    have stays : Stays (.quoted mark) '\n' (text ++ mark :: rest) := fun outer previous => by
      simp [Scanner.stepRegion, apart]
    rw [List.cons_append, exposing_of_step isStem (missing previous _) step]
    refine congrArg ('\\' :: '\r' :: ·) ?_
    refine (exposing_of_stays isStem stays (missing _ _)).trans ?_
    exact congrArg ('\n' :: ·) (ih _)

theorem Agrees.string (isStem : IsStem stem) {braces : Nat} {mark : Char}
    (isMark : mark = '\'' ∨ mark = '"') {text : List Char} (quoted : Quoted mark text)
    (agrees : Agrees stem count (.code braces) outer rest marks) :
    Agrees stem count (.code braces) outer (mark :: (text ++ mark :: rest))
      (false :: (unmarked text ++ false :: marks)) := by
  intro previous
  have other : isNameChar mark = false := by rcases isMark with rfl | rfl <;> decide
  have missing : exposeAt? stem count ⟨.code braces, outer, previous⟩
      (mark :: (text ++ mark :: rest)) = none :=
    exposeAt?_of_none _ (take?_of_not_name isStem other _)
  have step : (Scanner.mk (.code braces) outer previous).stepRegion mark (text ++ mark :: rest) =
      (⟨.quoted mark, .code braces :: outer, previous⟩, 0) := by
    rcases isMark with rfl | rfl <;>
      simp [Scanner.stepRegion, Scanner.stepCodeMark, Scanner.enter]
  rw [exposing_of_step isStem missing step, exposeMarked_of_false, exposeMarked_unmarked,
    exposeMarked_of_false, ← agrees (some mark)]
  exact congrArg (mark :: ·) (exposing_quoted isStem isMark quoted _)

/-! Comments -/

theorem Agrees.lineComment (isStem : IsStem stem) {braces : Nat} {text : List Char}
    (plain : ∀ c ∈ text, isLineBreak c = false) (ends : ∀ c ∈ rest.head?, c = '\n')
    (agrees : Agrees stem count (.code braces) outer rest marks) :
    Agrees stem count (.code braces) outer ('/' :: '/' :: (text ++ rest))
      (false :: false :: (unmarked text ++ marks)) := by
  have whole : ('/' :: (text ++ rest)).takeWhile (· != '\n') = '/' :: text := by
    have inside : ∀ c ∈ '/' :: text, (c != '\n') = true := by
      intro c member
      cases List.mem_cons.mp member with
      | inl isSlash => rw [isSlash]; decide
      | inr inText =>
        rw [bne_iff_ne]
        rintro rfl
        exact absurd (plain _ inText) (by decide)
    rw [← List.cons_append, List.takeWhile_append_of_pos inside]
    cases rest with
    | nil => simp
    | cons c rest => simp [ends c rfl]
  refine Agrees.step isStem _ _ '/' ('/' :: text) (by decide) (fun previous => ?_) agrees
  simp [Scanner.stepRegion, whole]

theorem blockCommentLength_of_blockComment? {text : List Char}
    (found : blockComment? (text ++ '*' :: '/' :: rest) = some (text, rest)) (more : List Char) :
    Scanner.blockCommentLength (text ++ '*' :: '/' :: more) = text.length + 2 := by
  induction text with
  | nil => rfl
  | cons c text ih =>
    have notEnd (text' : List Char) (starts : c = '*') (ends : text = '/' :: text') : False := by
      subst starts ends
      cases found
    rw [List.cons_append, Scanner.blockCommentLength]
    · rw [List.cons_append, blockComment?] at found
      · obtain ⟨⟨_, _⟩, inner, same⟩ := Option.map_eq_some_iff.mp found
        cases same
        rw [ih inner, List.length_cons]
      · intro text' starts ends
        cases text with
        | nil => cases ends
        | cons d text => exact notEnd text starts (by rw [(List.cons.inj ends).1])
    · intro text' starts ends
      cases text with
      | nil => cases ends
      | cons d text => exact notEnd text starts (by rw [(List.cons.inj ends).1])

theorem Agrees.blockComment (isStem : IsStem stem) {braces : Nat} {text rest' : List Char}
    (found : blockComment? (text ++ '*' :: '/' :: rest') = some (text, rest'))
    (noSlash : text.head? ≠ some '/')
    (agrees : Agrees stem count (.code braces) outer rest marks) :
    Agrees stem count (.code braces) outer ('/' :: '*' :: (text ++ '*' :: '/' :: rest))
      (false :: false :: (unmarked text ++ false :: false :: marks)) := by
  have length : Scanner.blockCommentLength ('*' :: (text ++ '*' :: '/' :: rest)) =
      text.length + 3 := by
    rw [Scanner.blockCommentLength, blockCommentLength_of_blockComment? found]
    rintro text' - starts
    cases text with
    | nil => cases starts
    | cons c text => exact noSlash (by rw [(List.cons.inj starts).1]; rfl)
  have step := Agrees.step isStem (.code braces) outer '/' ('*' :: (text ++ ['*', '/'])) (by decide)
    (fun previous => by simp [Scanner.stepRegion, length]) agrees
  simpa [unmarked] using step

/-! Template literals, braces and substitutions -/

section Brackets

variable (isStem : IsStem stem) {braces : Nat}

include isStem

theorem Agrees.templateStart
    (agrees : Agrees stem count .template (.code braces :: outer) rest marks) :
    Agrees stem count (.code braces) outer ('\x60' :: rest) (false :: marks) :=
  Agrees.step isStem _ _ '\x60' [] (by decide)
    (fun previous => by simp [Scanner.stepRegion, Scanner.stepCodeMark, Scanner.enter]) agrees

theorem Agrees.templateEnd (agrees : Agrees stem count region outer rest marks) :
    Agrees stem count .template (region :: outer) ('\x60' :: rest) (false :: marks) :=
  Agrees.step isStem _ _ '\x60' [] (by decide)
    (fun previous => by simp [Scanner.stepRegion, Scanner.leave]) agrees

theorem Agrees.braceStart (agrees : Agrees stem count (.code (braces + 1)) outer rest marks) :
    Agrees stem count (.code braces) outer ('{' :: rest) (false :: marks) :=
  Agrees.step isStem _ _ '{' [] (by decide)
    (fun previous => by simp [Scanner.stepRegion, Scanner.stepCodeMark]) agrees

theorem Agrees.braceEnd (agrees : Agrees stem count (.code braces) outer rest marks) :
    Agrees stem count (.code (braces + 1)) outer ('}' :: rest) (false :: marks) :=
  Agrees.step isStem _ _ '}' [] (by decide)
    (fun previous => by simp [Scanner.stepRegion, Scanner.stepCodeMark]) agrees

theorem Agrees.substitutionStart
    (agrees : Agrees stem count (.code 0) (.template :: outer) rest marks) :
    Agrees stem count .template outer ('$' :: '{' :: rest) (false :: false :: marks) :=
  Agrees.step isStem _ _ '$' ['{'] (by decide)
    (fun previous => by simp [Scanner.stepRegion, Scanner.enter]) agrees

theorem Agrees.substitutionEnd (agrees : Agrees stem count region outer rest marks) :
    Agrees stem count (.code 0) (region :: outer) ('}' :: rest) (false :: marks) :=
  Agrees.step isStem _ _ '}' [] (by decide)
    (fun previous => by simp [Scanner.stepRegion, Scanner.stepCodeMark, Scanner.leave]) agrees

end Brackets

/-! The scanner keeps in step with the grammar -/

/-- What comes after a text in a place. -/
def Follows : Stretch → List Char → Prop
  | .code true, rest => rest = []
  | .code false, rest => rest.head? = some '}'
  | .template, rest => rest.head? = some '\x60'

/-- The regions in which the scanner passes over a text in a place. -/
def Passes : Stretch → Region → Prop
  | .code _, region => ∃ braces, region = .code braces
  | .template, region => region = .template

theorem follows_of_code {isLast : Bool} (follows : Follows (.code isLast) rest) :
    rest = [] ∧ isLast = true ∨ ∃ after, rest = '}' :: after := by
  cases isLast with
  | false => exact Or.inr (List.head?_eq_some_iff.mp follows)
  | true => exact Or.inl ⟨follows, rfl⟩

/-- Between code and what comes after it no comment opens. -/
theorem slash_of_follows {isLast : Bool} {after : List Char}
    (slash : c = '/' → after.head? ≠ some '/' ∧ after.head? ≠ some '*')
    (follows : Follows (.code isLast) rest) :
    c = '/' → (after ++ rest).head? ≠ some '/' ∧ (after ++ rest).head? ≠ some '*' := by
  intro isSlash
  cases after with
  | cons _ _ => exact slash isSlash
  | nil => rcases follows_of_code follows with ⟨rfl, -⟩ | ⟨_, rfl⟩ <;> simp

/-- Between template text and what comes after it no substitution opens. -/
theorem dollar_of_follows {after : List Char} (dollar : c = '$' → after.head? ≠ some '{')
    (follows : Follows .template rest) : c = '$' → (after ++ rest).head? ≠ some '{' := by
  intro isDollar isBrace
  cases after with
  | cons _ _ => exact dollar isDollar isBrace
  | nil =>
    rw [List.nil_append, show rest.head? = some '\x60' from follows] at isBrace
    cases isBrace

theorem stays_code {braces : Nat} (isOther : c ∉ ['\'', '"', '\x60', '{', '}'])
    (slash : c = '/' → rest.head? ≠ some '/' ∧ rest.head? ≠ some '*') :
    Stays (.code braces) c rest := by
  intro outer previous
  simp only [List.mem_cons, List.not_mem_nil, or_false, not_or] at isOther
  obtain ⟨notQuote, notDouble, notBacktick, notOpen, notClose⟩ := isOther
  have notLine : ¬(c = '/' ∧ rest.head? = some '/') := fun both => (slash both.1).1 both.2
  have notBlock : ¬(c = '/' ∧ rest.head? = some '*') := fun both => (slash both.1).2 both.2
  simp only [Scanner.stepRegion, Scanner.stepCodeMark, if_neg notLine, if_neg notBlock,
    notQuote, notDouble, notBacktick, notOpen, notClose, or_self, if_false]

theorem stays_template (isOther : c ∉ ['\x60', '\\'])
    (dollar : c = '$' → rest.head? ≠ some '{') : Stays .template c rest := by
  intro outer previous
  simp only [List.mem_cons, List.not_mem_nil, or_false, not_or] at isOther
  have notDollar : ¬(c = '$' ∧ rest.head? = some '{') := fun both => dollar both.1 both.2
  simp only [Scanner.stepRegion, isOther.1, isOther.2, if_neg notDollar, if_false]

/-- The scanner enters a stretch and leaves it again, so that what holds within it and behind it
holds of the whole. -/
theorem agrees_of_lexed (isStem : IsStem stem) {stretch : Stretch} {text : List Char}
    {inner : List Bool} (lexed : Lexed True stretch text inner) (passes : Passes stretch region)
    (follows : Follows stretch rest) (agrees : Agrees stem count region outer rest marks) :
    Agrees stem count region outer (text ++ rest) (inner ++ marks) := by
  induction lexed generalizing region outer rest marks with
  | codeEnd => exact agrees
  | templateEnd => exact agrees
  | @lineComment isLast text after _ plain ends regular _ ih =>
    obtain ⟨braces, rfl⟩ := passes
    have next : ∀ c ∈ (after ++ rest).head?, c = '\n' := by
      cases after with
      | cons c after => exact regular trivial
      | nil =>
        -- A line comment that nothing ends is the last of the text.
        rcases follows_of_code follows with ⟨rfl, -⟩ | ⟨_, rfl⟩
        · simp
        · cases isLast with
          | false => cases ends
          | true => cases follows
    simpa using Agrees.lineComment isStem plain next (ih ⟨braces, rfl⟩ follows agrees)
  | blockComment found regular _ ih =>
    obtain ⟨braces, rfl⟩ := passes
    simpa using Agrees.blockComment isStem found (regular trivial)
      (ih ⟨braces, rfl⟩ follows agrees)
  | string isMark quoted _ ih =>
    obtain ⟨braces, rfl⟩ := passes
    simpa using Agrees.string isStem isMark quoted (ih ⟨braces, rfl⟩ follows agrees)
  | template _ _ inside ih =>
    obtain ⟨braces, rfl⟩ := passes
    have behind := ih ⟨braces, rfl⟩ follows agrees
    simpa using (inside rfl List.head?_cons (behind.templateEnd isStem)).templateStart isStem
  | braces _ _ inside ih =>
    obtain ⟨braces, rfl⟩ := passes
    have behind := ih ⟨braces, rfl⟩ follows agrees
    simpa using (inside ⟨_, rfl⟩ List.head?_cons (behind.braceEnd isStem)).braceStart isStem
  | other isOther slash _ ih =>
    obtain ⟨braces, rfl⟩ := passes
    exact Agrees.stays isStem (by simp) (stays_code isOther (slash_of_follows slash follows))
      (ih ⟨braces, rfl⟩ follows agrees)
  | character isOther dollar _ ih =>
    subst passes
    exact Agrees.stays isStem (by simp) (stays_template isOther (dollar_of_follows dollar follows))
      (ih rfl follows agrees)
  | escape c _ ih =>
    subst passes
    simpa [unmarked] using Agrees.step isStem .template outer '\\' [c] (by decide)
      (fun previous => by simp [Scanner.stepRegion])
      (ih rfl follows agrees)
  | substitution _ _ inside ih =>
    subst passes
    have behind := (ih rfl follows agrees).substitutionEnd isStem
    simpa using (inside ⟨0, rfl⟩ List.head?_cons behind).substitutionStart isStem

theorem expose_of_agrees {output : List Char}
    (agrees : Agrees stem count (.code 0) [] output marks) :
    expose stem count output = exposeMarked stem count output marks :=
  agrees none

theorem agrees_nil : Agrees stem count region outer [] [] :=
  fun _ => rfl

theorem lexed_template_of_names {isRegular : Prop} {text : List Char}
    (names : ∀ c ∈ text, isNameChar c = true) (lexed : Lexed isRegular .template rest marks) :
    Lexed isRegular .template (text ++ rest) (text.map (fun _ => true) ++ marks) := by
  induction text with
  | nil => exact lexed
  | cons c text ih =>
    have isName := names c List.mem_cons_self
    refine Lexed.character ?_ ?_ (ih fun d member => names d (List.mem_cons_of_mem c member))
    · intro member
      simp only [List.mem_cons, List.not_mem_nil, or_false] at member
      rcases member with rfl | rfl <;> exact absurd isName (by decide)
    · rintro rfl
      exact absurd isName (by decide)

theorem lexed_code_of_names {isRegular : Prop} {isLast : Bool} {text : List Char}
    (names : ∀ c ∈ text, isNameChar c = true) (lexed : Lexed isRegular (.code isLast) rest marks) :
    Lexed isRegular (.code isLast) (text ++ rest) (unmarked text ++ marks) := by
  induction text with
  | nil => exact lexed
  | cons c text ih =>
    have isName := names c List.mem_cons_self
    refine Lexed.other ?_ ?_ (ih fun d member => names d (List.mem_cons_of_mem c member))
    · intro member
      simp only [List.mem_cons, List.not_mem_nil, or_false] at member
      rcases member with rfl | rfl | rfl | rfl | rfl <;> exact absurd isName (by decide)
    · rintro rfl
      exact absurd isName (by decide)

theorem quoted_of_plain {mark : Char} {text : List Char}
    (plain : ∀ c ∈ text, c ≠ mark ∧ c ≠ '\\' ∧ c ≠ '\n' ∧ c ≠ '\r') : Quoted mark text := by
  induction text with
  | nil => exact .nil
  | cons c text ih =>
    obtain ⟨notMark, notEscape, notFeed, notReturn⟩ := plain c List.mem_cons_self
    exact .character notMark notEscape notFeed notReturn
      (ih fun d member => plain d (List.mem_cons_of_mem c member))

/-- A template literal between comments, of which the first opens with a slash after its star. -/
def slashOpened (inner : List Char) : List Char :=
  '/' :: '*' :: '/' :: '\'' :: '*' :: '/' :: '\x60' ::
    (inner ++ '\x60' :: '/' :: '*' :: '\'' :: '*' :: '/' :: [])

/-- A comment that opens with a slash after its star is taken to end with that slash. A quote in it
then hides the placeholders after it. -/
theorem slash_opened_comment_hides_placeholder (isStem : IsStem stem) {id : Nat}
    (small : id < count) (bounded : id < idBound) :
    ∃ marks, Lexed False (.code true) (slashOpened (name stem id)) marks ∧
      exposeMarked stem count (slashOpened (name stem id)) marks =
        slashOpened ('$' :: '{' :: name stem id ++ ['}']) ∧
      expose stem count (slashOpened (name stem id)) = slashOpened (name stem id) := by
  have names : ∀ c ∈ name stem id, isNameChar c = true :=
    fun c member => isNameChar_of_mem_name isStem member
  -- By the grammar a comment, a template literal and another comment.
  have closing : Lexed False (.code true) ('/' :: '*' :: (['\''] ++ '*' :: '/' :: [])) _ :=
    .blockComment rfl False.elim .codeEnd
  have lexed : Lexed False (.code true) (slashOpened (name stem id)) _ :=
    .blockComment (rfl : blockComment? (['/', '\''] ++ _) = some (['/', '\''], _)) False.elim
      (.template (by simpa using lexed_template_of_names names .templateEnd) closing)
  refine ⟨_, lexed, ?_, ?_⟩
  · have taken : take? stem count (name stem id ++ '\x60' :: "/*'*/".toList) =
        some (id, '\x60' :: "/*'*/".toList) := take?_eq_some.mpr ⟨rfl, rfl, small, bounded⟩
    obtain ⟨size, length⟩ : ∃ size, (name stem id).length = size + 1 :=
      Nat.exists_eq_succ_of_ne_zero (by simp [name, isStem.nonempty])
    have filled := exposeMarked_of_take? isStem taken
      (List.replicate size true ++ List.replicate 6 false)
    simp only [length, List.drop_succ_cons, List.drop_left'
      (List.length_replicate (n := size) (a := true))] at filled
    simpa [slashOpened, unmarked, length, List.replicate_succ] using filled
  · have plain : ∀ c ∈ "*/\x60".toList ++ name stem id ++ "\x60/*".toList,
        c ≠ '\'' ∧ c ≠ '\\' ∧ c ≠ '\n' ∧ c ≠ '\r' := by
      have ofName (c : Char) (isName : isNameChar c = true) :
          c ≠ '\'' ∧ c ≠ '\\' ∧ c ≠ '\n' ∧ c ≠ '\r' := by
        refine ⟨?_, ?_, ?_, ?_⟩ <;> rintro rfl <;> exact absurd isName (by decide)
      have ofOther : ∀ c ∈ "*/\x60".toList ++ "\x60/*".toList,
          c ≠ '\'' ∧ c ≠ '\\' ∧ c ≠ '\n' ∧ c ≠ '\r' := by
        simp
      intro c member
      rcases List.mem_append.mp member with member | member
      · rcases List.mem_append.mp member with member | member
        · exact ofOther c (List.mem_append_left _ member)
        · exact ofName c (names c member)
      · exact ofOther c (List.mem_append_right _ member)
    -- For the scanner a comment of three characters, and a string from one quote to the other.
    have outside : Lexed True (.code true) ['*', '/'] [false, false] :=
      .other (by decide) (by decide) (.other (by decide) (by decide) .codeEnd)
    have string : Agrees stem count (.code 0) [] _ _ :=
      agrees_of_lexed isStem (.string (.inl rfl) (quoted_of_plain plain) outside) ⟨0, rfl⟩ rfl
        agrees_nil
    have comment := Agrees.step isStem (.code 0) [] '/' ['*', '/'] (by decide)
      (fun previous => by simp [Scanner.stepRegion, Scanner.blockCommentLength]) string
    have same := expose_of_agrees comment
    simp only [List.append_nil, exposeMarked_of_false, exposeMarked_unmarked, exposeMarked_nil]
      at same
    simpa [slashOpened] using same

/-- Code with quotes in a comment, and a backtick in a string. -/
def quotesInComment : List Char :=
  "/*'*/`\\__css_hole_0`+'`'+`${__css_hole_0}__css_hole_0`".toList

def quotesInCommentMarks : List Bool :=
  List.replicate 8 false ++ List.replicate 11 true ++ List.replicate 22 false ++
    List.replicate 12 true ++ [false]

end CssInline.Placeholder
