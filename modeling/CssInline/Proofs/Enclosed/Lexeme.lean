import CssInline.Proofs.Escape
import CssInline.Proofs.Token

/-! Strings, marks and words at the start of a text, with and without a closing parenthesis on a
line of its own after the text. -/

namespace CssInline.Code

/-- What closes the parentheses around a text. -/
def closing : List Char :=
  ['\n', ')']

/-! Runs of characters -/

theorem takeWhile_append_closing {holds : Char → Bool} (stops : holds '\n' = false)
    (text : List Char) : (text ++ closing).takeWhile holds = text.takeWhile holds := by
  induction text with
  | nil => simp [closing, stops]
  | cons c text ih =>
    rw [List.cons_append, List.takeWhile_cons, List.takeWhile_cons, ih]

theorem dropWhile_append_closing {holds : Char → Bool} (stops : holds '\n' = false)
    (text : List Char) : (text ++ closing).dropWhile holds = text.dropWhile holds ++ closing := by
  induction text with
  | nil => simp [closing, stops]
  | cons c text ih =>
    rw [List.cons_append, List.dropWhile_cons, List.dropWhile_cons, ih]
    split <;> rfl

theorem drop_takeWhile (holds : Char → Bool) (text : List Char) :
    text.drop (text.takeWhile holds).length = text.dropWhile holds := by
  have split : (text.takeWhile holds ++ text.dropWhile holds).drop (text.takeWhile holds).length =
      text.dropWhile holds := List.drop_left
  rwa [List.takeWhile_append_dropWhile] at split

theorem drop_append_closing {count : Nat} {text : List Char} (inside : count ≤ text.length) :
    (text ++ closing).drop count = text.drop count ++ closing :=
  List.drop_append_of_le_length inside

theorem any_head?_append_closing {holds : Char → Bool} (stops : holds '\n' = false)
    (text : List Char) : (text ++ closing).head?.any holds = text.head?.any holds := by
  cases text with
  | nil => simp [closing, stops]
  | cons c text => rfl

theorem head?_append_closing {c : Char} (noFeed : c ≠ '\n') (text : List Char) :
    ((text ++ closing).head? == some c) = (text.head? == some c) := by
  cases text with
  | nil => simpa [closing] using noFeed.symm
  | cons d text => rfl

/-! Escapes -/

theorem hexNumber?_eq_none {digits : List Char} {c : Char} (noDigit : Text.hexValue? c = none)
    (member : c ∈ digits) : Text.hexNumber? digits = none := by
  have failed (digits : List Char) :
      digits.foldl (fun value digit => do return (← value) * 16 + (← Text.hexValue? digit))
        none = (none : Option Nat) := by
    induction digits with
    | nil => rfl
    | cons digit digits ih => exact ih
  obtain ⟨before, after, rfl⟩ := List.append_of_mem member
  have here (value : Option Nat) :
      (do return (← value) * 16 + (← Text.hexValue? c)) = (none : Option Nat) := by
    rw [noDigit]
    cases value <;> rfl
  rw [Text.hexNumber?, List.foldl_append, List.foldl_cons, here, failed]

/-- What is read of a text, with `closing` after what follows it. -/
def beforeClosing (read : α × List Char) : α × List Char :=
  (read.1, read.2 ++ closing)

theorem hexNumber?_of_feed {digits : List Char} (member : '\n' ∈ digits) :
    Text.hexNumber? digits = none :=
  hexNumber?_eq_none (by decide) member

theorem unicodeCode?_brace_append_closing (rest : List Char) :
    unicodeCode? ('{' :: (rest ++ closing)) = (unicodeCode? ('{' :: rest)).map beforeClosing := by
  rw [unicodeCode?, unicodeCode?]
  rw [drop_takeWhile, drop_takeWhile, List.dropWhile_append, List.takeWhile_append]
  cases ends : rest.dropWhile (· != '}') with
  | nil => rfl
  | cons d after =>
    have begun : (rest.takeWhile (· != '}')).length ≠ rest.length := by
      have := congrArg List.length (List.takeWhile_append_dropWhile (p := (· != '}')) (l := rest))
      rw [ends, List.length_append, List.length_cons] at this
      omega
    rw [if_neg begun]
    simp only [List.isEmpty_cons, Bool.false_eq_true, if_false, List.cons_append]
    have isBrace : d = '}' := by
      have stopped := List.head?_dropWhile_not (· != '}') rest
      rw [ends] at stopped
      simpa using stopped
    subst isBrace
    cases (rest.takeWhile (· != '}')).isEmpty with
    | true => rfl
    | false =>
      simp only [Bool.false_eq_true, if_false]
      cases Text.hexNumber? (rest.takeWhile (· != '}')) with
      | none => rfl
      | some code =>
        dsimp only
        split <;> rfl

theorem unicodeCode?_digits_append_closing {text : List Char} (noBrace : text.head? ≠ some '{') :
    unicodeCode? (text ++ closing) = (unicodeCode? text).map beforeClosing := by
  -- A text that is too short for four digits takes the line feed for one of them.
  match text with
  | [] => rfl
  | [a] =>
    have open' : a ≠ '{' := fun same => noBrace (congrArg some same)
    rw [unicodeCode?.eq_3 [a], unicodeCode?.eq_3]
    · rfl
    all_goals simp [closing, open']
  | [a, b] =>
    have open' : a ≠ '{' := fun same => noBrace (congrArg some same)
    rw [unicodeCode?.eq_3 [a, b]]
    · exact (unicodeCode?.eq_2 a b '\n' ')' [] open').trans
        (congrArg (Option.map _) (hexNumber?_of_feed (by simp)))
    all_goals simp [open']
  | [a, b, c] =>
    have open' : a ≠ '{' := fun same => noBrace (congrArg some same)
    rw [unicodeCode?.eq_3 [a, b, c]]
    · exact (unicodeCode?.eq_2 a b c '\n' [')'] open').trans
        (congrArg (Option.map _) (hexNumber?_of_feed (by simp)))
    all_goals simp [open']
  | a :: b :: c :: d :: rest =>
    have open' : a ≠ '{' := fun same => noBrace (congrArg some same)
    rw [unicodeCode?.eq_2 a b c d rest open', Option.map_map]
    exact unicodeCode?.eq_2 a b c d (rest ++ closing) open'

theorem unicodeCode?_append_closing (text : List Char) :
    unicodeCode? (text ++ closing) = (unicodeCode? text).map beforeClosing := by
  by_cases braced : text.head? = some '{'
  · obtain ⟨rest, rfl⟩ := List.head?_eq_some_iff.mp braced
    exact unicodeCode?_brace_append_closing rest
  · exact unicodeCode?_digits_append_closing braced

theorem unicodeChar?_append_closing (text : List Char) :
    unicodeChar? (text ++ closing) = (unicodeChar? text).map beforeClosing := by
  unfold unicodeChar?
  rw [unicodeCode?_append_closing]
  cases unicodeCode? text with
  | none => rfl
  | some found =>
    obtain ⟨first, rest⟩ := found
    simp only [Option.map_some, beforeClosing, Option.bind_eq_bind, Option.bind_some]
    split
    · by_cases paired : ∃ more, rest = '\\' :: 'u' :: more
      · obtain ⟨more, rfl⟩ := paired
        simp only [List.cons_append, unicodeCode?_append_closing more]
        cases unicodeCode? more with
        | none => rfl
        | some found =>
          rw [Option.map_some]
          dsimp only [beforeClosing]
          split
          · generalize charOfCode _ = c
            rfl
          · rfl
      · have single (more : List Char) : rest ++ closing ≠ '\\' :: 'u' :: more := by
          intro same
          cases rest with
          | nil => simp [closing] at same
          | cons d rest =>
            cases rest with
            | nil => simp [closing] at same
            | cons e rest =>
              simp only [List.cons_append, List.cons.injEq] at same
              exact paired ⟨rest, by rw [same.1, same.2.1]⟩
        split
        · exact absurd ‹_› (single _)
        · split
          · exact absurd ⟨_, rfl⟩ paired
          · rfl
    · rfl

theorem octalDigits_append_closing (text : List Char) :
    octalDigits (text ++ closing) = octalDigits text := by
  unfold octalDigits
  rw [takeWhile_append_closing (by decide)]

theorem length_octalDigits_le (text : List Char) : (octalDigits text).length ≤ text.length := by
  have inside := (List.takeWhile_prefix (l := text) isOctalDigit).length_le
  unfold octalDigits
  dsimp only
  split <;> rw [List.length_take] <;> omega

/-- Characters with an escape of their own. -/
def escapeLetters : List Char :=
  ['n', 't', 'b', 'v', 'f', 'r', 'x', 'u']

theorem escape?_other (octal : Bool) {c : Char} {rest : List Char} (other : c ∉ escapeLetters)
    (noPair : c = '\r' → rest.head? ≠ some '\n') :
    escape? octal (c :: rest) =
      if isLineBreak c then some ([], rest)
      else if c = '0' ∧ !rest.head?.any Char.isDigit then some (['\x00'], rest)
      else if isOctalDigit c then
        if octal then some ([charOfCode (octalValue (octalDigits (c :: rest)))],
          (c :: rest).drop (octalDigits (c :: rest)).length)
        else none
      else if c.isDigit ∧ !octal then none
      else some ([c], rest) := by
  simp only [escapeLetters, List.mem_cons, List.not_mem_nil, or_false, not_or] at other
  obtain ⟨n, t, b, v, f, r, x, u⟩ := other
  refine escape?.eq_11 octal c rest (fun more isReturn same => noPair isReturn (by rw [same]; rfl))
    n t b v f r (fun _ _ _ isX => absurd isX x) x u

/-- What an escape stands for does not depend on the end of the text, unless the escape is the end
itself. -/
theorem escape?_append_closing (octal : Bool) (text : List Char) :
    escape? octal (text ++ closing) = (escape? octal text).map beforeClosing ∨
      (text = [] ∨ text = ['\r']) ∧ escape? octal (text ++ closing) = some ([], [')']) := by
  cases text with
  | nil => exact .inr ⟨.inl rfl, rfl⟩
  | cons c rest =>
    by_cases other : c ∈ escapeLetters
    · left
      simp only [escapeLetters, List.mem_cons, List.not_mem_nil, or_false] at other
      rcases other with rfl | rfl | rfl | rfl | rfl | rfl | rfl | rfl
      iterate 6 rfl
      · match rest with
        | [] =>
          have faulty : Text.hexNumber? ['\n', ')'] = none := hexNumber?_of_feed (by simp)
          exact congrArg (Option.map fun code => ([charOfCode code], [])) faulty
        | [a] =>
          have faulty : Text.hexNumber? [a, '\n'] = none := hexNumber?_of_feed (by simp)
          exact congrArg (Option.map fun code => ([charOfCode code], [')'])) faulty
        | a :: b :: rest =>
          rw [escape?.eq_8, Option.map_map]
          exact escape?.eq_8 octal a b (rest ++ closing)
      · rw [List.cons_append, escape?.eq_10, escape?.eq_10, unicodeChar?_append_closing,
          Option.map_map, Option.map_map]
        rfl
    · by_cases pair : c = '\r' ∧ (rest ++ closing).head? = some '\n'
      · obtain ⟨rfl, starts⟩ := pair
        cases rest with
        | nil => exact .inr ⟨.inr rfl, rfl⟩
        | cons d rest =>
          left
          cases starts
          rfl
      · left
        have noPair (isReturn : c = '\r') : (rest ++ closing).head? ≠ some '\n' :=
          fun starts => pair ⟨isReturn, starts⟩
        have noPair' (isReturn : c = '\r') : rest.head? ≠ some '\n' := fun starts =>
          noPair isReturn (by rw [List.head?_append, starts]; rfl)
        have digits := octalDigits_append_closing (c :: rest)
        rw [List.cons_append] at digits ⊢
        rw [escape?_other octal other noPair, escape?_other octal other noPair', digits,
          any_head?_append_closing (by decide), ← List.cons_append,
          drop_append_closing (length_octalDigits_le _)]
        repeat' first | rfl | split

/-! Strings -/

theorem stringValueFrom_unclosed {octal : Bool} {quote : Char} (noParen : quote ≠ ')') (fuel : Nat)
    (done : List Char) : stringValueFrom octal quote fuel done [')'] = none := by
  match fuel with
  | 0 => rfl
  | 1 =>
    rw [stringValueFrom.eq_4 _ _ _ _ _ _ (by simp), if_neg noParen.symm, if_neg (by decide)]
    rfl
  | fuel + 2 =>
    rw [stringValueFrom.eq_4 _ _ _ _ _ _ (by simp), if_neg noParen.symm, if_neg (by decide)]
    rfl

theorem stringValueFrom_nil (octal : Bool) (quote : Char) (fuel : Nat) (done : List Char) :
    stringValueFrom octal quote fuel done [] = none := by
  cases fuel <;> rfl

theorem stringValueFrom_append_closing {octal : Bool} {quote : Char} (noClosing : quote ∉ closing)
    {fuel fuel' : Nat} {text : List Char} (enough : text.length < fuel)
    (enough' : text.length + 2 < fuel') (done : List Char) :
    stringValueFrom octal quote fuel' done (text ++ closing) =
      (stringValueFrom octal quote fuel done text).map beforeClosing := by
  have noFeed : '\n' ≠ quote := fun same => noClosing (by simp [closing, ← same])
  have noParen : quote ≠ ')' := fun same => noClosing (by simp [closing, same])
  induction fuel generalizing fuel' text done with
  | zero => omega
  | succ fuel ih =>
    obtain ⟨fuel', rfl⟩ := Nat.exists_eq_succ_of_ne_zero (Nat.ne_zero_of_lt enough')
    cases text with
    | nil =>
      rw [stringValueFrom_nil]
      exact (stringValueFrom.eq_4 octal quote done fuel' '\n' [')'] (by simp)).trans
        ((if_neg noFeed).trans (if_pos (.inl rfl)))
    | cons c rest =>
      rw [List.length_cons] at enough enough'
      by_cases escapes : c = '\\'
      · subst escapes
        rw [List.cons_append, stringValueFrom.eq_3, stringValueFrom.eq_3]
        rcases escape?_append_closing octal rest with same | ⟨ending, cut⟩
        · rw [same]
          cases isEscape : escape? octal rest with
          | none => rfl
          | some found =>
            have shorter := (escape?_reads isEscape).1.length_le
            exact ih (by omega) (by omega) _
        -- The escape takes the line feed that closes the text, and then nothing ends the string.
        · rw [cut]
          dsimp only
          rw [stringValueFrom_unclosed noParen]
          rcases ending with rfl | rfl
          · rfl
          · have cut : escape? octal ['\r'] = some ([], []) := rfl
            rw [cut]
            dsimp only
            rw [stringValueFrom_nil]
            rfl
      · rw [List.cons_append, stringValueFrom.eq_4 _ _ _ _ _ _ escapes,
          stringValueFrom.eq_4 _ _ _ _ _ _ escapes]
        split
        · rfl
        · split
          · rfl
          · exact ih (by omega) (by omega) _

theorem stringValueFrom_reads {octal : Bool} {quote : Char} {fuel : Nat}
    {done text value after : List Char}
    (read : stringValueFrom octal quote fuel done text = some (value, after)) :
    after.length < text.length := by
  induction fuel generalizing done text with
  | zero => cases read
  | succ fuel ih =>
    cases text with
    | nil => cases read
    | cons c rest =>
      by_cases escapes : c = '\\'
      · subst escapes
        rw [stringValueFrom.eq_3] at read
        split at read
        · rename_i isEscape
          exact Nat.lt_succ_of_lt (Nat.lt_of_lt_of_le (ih read)
            (escape?_reads isEscape).1.length_le)
        · cases read
      · rw [stringValueFrom.eq_4 _ _ _ _ _ _ escapes] at read
        split at read
        · cases read
          exact Nat.lt_succ_self _
        · split at read
          · cases read
          · exact Nat.lt_succ_of_lt (ih read)

theorem stringLexeme?_append_closing (octal : Bool) (text : List Char) :
    stringLexeme? octal (text ++ closing) = stringLexeme? octal text := by
  cases text with
  | nil => rfl
  | cons quote rest =>
    rw [List.cons_append, stringLexeme?, stringLexeme?]
    split
    · rename_i isQuote
      have noClosing : quote ∉ closing := by rcases isQuote with rfl | rfl <;> decide
      rw [stringValueFrom_append_closing noClosing (Nat.lt_succ_self rest.length)
        (by rw [List.length_append]; exact Nat.lt_succ_self _), Option.map_map]
      cases isValue : stringValueFrom octal quote (rest.length + 1) [] rest with
      | none => rfl
      | some found =>
        have shorter := stringValueFrom_reads isValue
        have size : (rest ++ closing).length + 1 - (found.2 ++ closing).length =
            rest.length + 1 - found.2.length := by
          rw [List.length_append, List.length_append]
          omega
        simp only [Option.map_some, Function.comp_apply, beforeClosing, size]
        rw [← List.cons_append, List.take_append_of_le_length (by rw [List.length_cons]; omega)]
    · rfl

theorem length_of_stringLexeme? {octal : Bool} {text : List Char} {lexeme : StringLexeme}
    {size : Nat} (found : stringLexeme? octal text = some (lexeme, size)) :
    0 < size ∧ size ≤ text.length := by
  cases text with
  | nil => cases found
  | cons quote rest =>
    rw [stringLexeme?] at found
    split at found
    · obtain ⟨⟨value, after⟩, isValue, same⟩ := Option.map_eq_some_iff.mp found
      cases same
      have shorter := stringValueFrom_reads isValue
      rw [List.length_cons]
      omega
    · cases found

/-! Marks -/

open Reader

theorem isPrefixOf_append_closing {mark : List Char} (noFeed : '\n' ∉ mark) (text : List Char) :
    mark.isPrefixOf (text ++ closing) = mark.isPrefixOf text := by
  induction mark generalizing text with
  | nil => rfl
  | cons c mark ih =>
    rw [List.mem_cons, not_or] at noFeed
    cases text with
    | nil =>
      have other : (c == '\n') = false := beq_eq_false_iff_ne.mpr (Ne.symm noFeed.1)
      rw [List.nil_append, closing, List.isPrefixOf_cons_cons, other, Bool.false_and]
      rfl
    | cons d text => rw [List.cons_append, List.isPrefixOf, List.isPrefixOf, ih noFeed.2]

theorem find?_append_closing {tokens : List (List Char)} (noFeed : ∀ token ∈ tokens, '\n' ∉ token)
    (text : List Char) : tokens.find? (fun token => token.isPrefixOf (text ++ closing)) =
      tokens.find? fun token => token.isPrefixOf text := by
  induction tokens with
  | nil => rfl
  | cons token tokens ih =>
    obtain ⟨first, others⟩ := List.forall_mem_cons.mp noFeed
    rw [List.find?_cons, List.find?_cons, isPrefixOf_append_closing first, ih others]

theorem markOf?_append_closing (text : List Char) :
    markOf? (text ++ closing) = markOf? text := by
  unfold markOf?
  rw [find?_append_closing fun _ member => (plain_of_mem_marks member).2.1]
  split
  · rfl
  · rename_i mark isFirst
    by_cases optional : mark = ['?', '.']
    · subst optional
      have inside : 2 ≤ text.length := (prefix_of_find? isFirst).length_le
      rw [drop_append_closing inside, any_head?_append_closing (by decide)]
    · have other : (mark == ['?', '.']) = false := by simpa using optional
      rw [other, Bool.false_and, Bool.false_and]

theorem length_of_markOf? {text : List Char} {mark : String} (found : markOf? text = some mark) :
    0 < mark.length ∧ mark.length ≤ text.length := by
  refine ⟨?_, (prefix_of_markOf? found).length_le⟩
  unfold markOf? at found
  split at found
  · cases found
  · rename_i mark' isFirst
    split at found
    · rw [← Option.some.inj found]
      decide
    · rw [← Option.some.inj found, String.length_ofList]
      exact List.length_pos_iff.mpr (plain_of_mem_marks (List.mem_of_find?_eq_some isFirst)).1

/-! Words -/

theorem wordFrom_append_closing {fuel fuel' : Nat} {text : List Char} (enough : text.length < fuel)
    (enough' : text.length + 2 < fuel') (done : List Char) (escaped : Bool) :
    wordFrom fuel' done (text ++ closing) escaped =
      (wordFrom fuel done text escaped).map fun (name, after, escaped) =>
        (name, after ++ closing, escaped) := by
  induction fuel generalizing fuel' text done escaped with
  | zero => omega
  | succ fuel ih =>
    obtain ⟨fuel', rfl⟩ := Nat.exists_eq_succ_of_ne_zero (Nat.ne_zero_of_lt enough')
    -- A word that goes to the end of the text is ended by the line feed.
    have noWord : (if done.isEmpty then isWordStart '\n' else isWordRest '\n') = false := by
      split <;> decide
    cases text with
    | nil =>
      rw [List.nil_append, closing, wordFrom.eq_3 _ _ _ _ _ (by simp), noWord]
      rfl
    | cons c rest =>
      rw [List.length_cons] at enough enough'
      by_cases escape : c = '\\' ∧ rest.head? = some 'u'
      · obtain ⟨rfl, starts⟩ := escape
        obtain ⟨rest, rfl⟩ := List.head?_eq_some_iff.mp starts
        rw [List.length_cons] at enough enough'
        rw [List.cons_append, List.cons_append, wordFrom.eq_2, wordFrom.eq_2,
          unicodeCode?_append_closing]
        cases isCode : unicodeCode? rest with
        | none => rfl
        | some found =>
          have shorter := (unicodeCode?_suffix isCode).length_le
          simp only [Option.map_some, beforeClosing]
          by_cases goes : (if done.isEmpty then isWordStart (charOfCode found.1)
            else isWordRest (charOfCode found.1)) = true
          · rw [if_pos goes, if_pos goes]
            exact ih (by omega) (by omega) _ _
          · rw [if_neg goes, if_neg goes]
            rfl
      · have noEscape (more : List Char) (slash : c = '\\') (same : rest = 'u' :: more) : False :=
          escape ⟨slash, by rw [same]; rfl⟩
        have noEscape' (more : List Char) (slash : c = '\\')
            (same : rest ++ closing = 'u' :: more) : False := by
          cases rest with
          | nil => simp [closing] at same
          | cons d rest =>
            rw [List.cons_append, List.cons.injEq] at same
            exact escape ⟨slash, by rw [same.1]; rfl⟩
        rw [List.cons_append, wordFrom.eq_3 _ _ _ _ _ noEscape, wordFrom.eq_3 _ _ _ _ _ noEscape']
        by_cases goes : (if done.isEmpty then isWordStart c else isWordRest c) = true
        · rw [if_pos goes, if_pos goes]
          exact ih (by omega) (by omega) _ _
        · rw [if_neg goes, if_neg goes]
          rfl

theorem wordFrom_reads {fuel : Nat} {done text name after : List Char} {escaped escaped' : Bool}
    (read : wordFrom fuel done text escaped = some (name, after, escaped')) :
    name.length + after.length ≤ done.length + text.length := by
  induction fuel, done, text, escaped using wordFrom.induct with
  | case1 => cases read
  | case2 fuel done rest escaped code after' isCode c starts ih =>
    rw [wordFrom, isCode] at read
    dsimp only at read
    rw [if_pos starts] at read
    have later := ih read
    have shorter := (unicodeCode?_suffix isCode).length_le
    simp only [List.length_cons] at later ⊢
    omega
  | case3 fuel done rest escaped code after' isCode c starts =>
    rw [wordFrom, isCode] at read
    dsimp only at read
    rw [if_neg starts] at read
    cases read
  | case4 fuel done rest escaped noCode =>
    rw [wordFrom, noCode] at read
    cases read
  | case5 fuel done c rest escaped noEscape goes ih =>
    rw [wordFrom.eq_3 _ _ _ _ _ noEscape, if_pos goes] at read
    have later := ih read
    simp only [List.length_cons] at later ⊢
    omega
  | case6 fuel done c rest escaped noEscape stops =>
    rw [wordFrom.eq_3 _ _ _ _ _ noEscape, if_neg stops] at read
    cases read
    exact Nat.le_of_eq (by rw [List.length_reverse])
  | case7 =>
    cases read
    exact Nat.le_of_eq (by rw [List.length_reverse])

theorem wordOf?_append_closing (text : List Char) :
    wordOf? (text ++ closing) = wordOf? text := by
  unfold wordOf?
  rw [wordFrom_append_closing (Nat.lt_succ_self text.length)
    (by rw [List.length_append]; exact Nat.lt_succ_self _)]
  cases isWord : wordFrom (text.length + 1) [] text false with
  | none => rfl
  | some found =>
    obtain ⟨name, after, escaped⟩ := found
    simp only [Option.map_some, List.length_append, Nat.add_sub_add_right]

theorem length_of_wordOf? {text : List Char} {word : Word} (isWord : wordOf? text = some word) :
    0 < word.size ∧ word.size ≤ text.length := by
  unfold wordOf? at isWord
  split at isWord
  · rename_i name after escaped found
    split at isWord
    · cases isWord
    · rename_i going
      cases isWord
      have reads := wordFrom_reads found
      have long : 0 < name.length := List.length_pos_iff.mpr (mt List.isEmpty_iff.mpr going)
      simp only [List.length_nil] at reads ⊢
      omega
  · cases isWord

theorem length_of_keywordOf? {text : List Char} {keyword : String}
    (isKeyword : keywordOf? text = some keyword) :
    0 < keyword.length ∧ keyword.length ≤ text.length := by
  obtain ⟨word, isWord, _, same⟩ := size_of_keywordOf? isKeyword
  rw [← same]
  exact length_of_wordOf? isWord

end CssInline.Code
