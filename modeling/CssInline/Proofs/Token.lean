import CssInline.Proofs.JsonExpression

/-! Readers of single tokens: what they give and where they go. -/

namespace CssInline.Code

namespace Reader

/-- A first step, and what comes after it. -/
theorem iterate_eq_some {step : α → Reader (α ⊕ β)} {state : α} {result : β}
    {cursor after : Cursor} (read : iterate step state cursor = some (result, after)) :
    step state cursor = some (.inr result, after) ∨ ∃ next middle fuel,
      step state cursor = some (.inl next, middle) ∧
        iterateFrom step fuel next middle = some (result, after) := by
  change iterateFrom step (cursor.rest.length + 1 + 1) state cursor = _ at read
  rw [iterateFrom] at read
  obtain ⟨next, middle, first, read⟩ := bind_eq_some.mp read
  cases next with
  | inl next => exact .inr ⟨next, middle, _, first, read⟩
  | inr result =>
    cases read
    exact .inl first

theorem mark?_apply (cursor : Cursor) : mark? cursor = some (markOf? cursor.rest, cursor) := rfl

theorem atMark_apply (mark : String) (cursor : Cursor) :
    atMark mark cursor = some (markOf? cursor.rest == some mark, cursor) := rfl

theorem word?_apply (cursor : Cursor) : word? cursor = some (wordOf? cursor.rest, cursor) := rfl

/-- The word that `text` starts with, if it holds no escape. -/
def keywordOf? (text : List Char) : Option String :=
  match wordOf? text with
  | some word => if word.escaped then none else some word.text
  | none => none

theorem keyword?_apply (cursor : Cursor) :
    keyword? cursor = some (keywordOf? cursor.rest, cursor) := by
  unfold keyword? keywordOf?
  rw [bind_apply, word?_apply, Option.bind_some]
  cases wordOf? cursor.rest <;> rfl

theorem atWord_apply (text : String) (cursor : Cursor) :
    atWord text cursor = some (keywordOf? cursor.rest == some text, cursor) := by
  unfold atWord
  rw [bind_apply, keyword?_apply]
  rfl

theorem require_eq_some {condition : Bool} {cursor after : Cursor} {value : Unit} :
    require condition cursor = some (value, after) ↔ condition = true ∧ after = cursor := by
  cases condition with
  | true => exact ⟨fun same => ⟨rfl, (Prod.mk.inj (Option.some.inj same)).2.symm⟩,
      fun ⟨_, same⟩ => by rw [same]; rfl⟩
  | false => exact ⟨nofun, fun ⟨no, _⟩ => nomatch no⟩

theorem accept_apply (mark : String) (cursor : Cursor) :
    accept mark cursor =
      if markOf? cursor.rest = some mark then
        (pass mark.length cursor).map fun (_, after) => (true, after)
      else some (false, cursor) := by
  unfold accept
  rw [bind_of_some (atMark_apply mark cursor)]
  by_cases same : markOf? cursor.rest = some mark
  · rw [if_pos same, if_pos (beq_iff_eq.mpr same), bind_apply]
    cases pass mark.length cursor <;> rfl
  · rw [if_neg same, if_neg (mt beq_iff_eq.mp same)]
    rfl

theorem acceptWord_apply (text : String) (cursor : Cursor) :
    acceptWord text cursor =
      if keywordOf? cursor.rest = some text then
        (pass text.length cursor).map fun (_, after) => (true, after)
      else some (false, cursor) := by
  unfold acceptWord
  rw [bind_of_some (atWord_apply text cursor)]
  by_cases same : keywordOf? cursor.rest = some text
  · rw [if_pos same, if_pos (beq_iff_eq.mpr same), bind_apply]
    cases pass text.length cursor <;> rfl
  · rw [if_neg same, if_neg (mt beq_iff_eq.mp same)]
    rfl

theorem accept_eq_some {mark : String} {cursor after : Cursor} {accepted : Bool}
    (read : accept mark cursor = some (accepted, after)) :
    accepted = false ∧ after = cursor ∨ accepted = true ∧ markOf? cursor.rest = some mark := by
  rw [accept_apply] at read
  split at read
  · rename_i isMark
    obtain ⟨_, _, same⟩ := Option.map_eq_some_iff.mp read
    cases same
    exact .inr ⟨rfl, isMark⟩
  · cases read
    exact .inl ⟨rfl, rfl⟩

theorem acceptWord_eq_some {text : String} {cursor after : Cursor} {accepted : Bool}
    (read : acceptWord text cursor = some (accepted, after)) :
    accepted = false ∧ after = cursor ∨
      accepted = true ∧ keywordOf? cursor.rest = some text := by
  rw [acceptWord_apply] at read
  split at read
  · rename_i isKeyword
    obtain ⟨_, _, same⟩ := Option.map_eq_some_iff.mp read
    cases same
    exact .inr ⟨rfl, isKeyword⟩
  · cases read
    exact .inl ⟨rfl, rfl⟩

theorem attempt_of_none {reader : Reader α} {cursor : Cursor} (fails : reader cursor = none) :
    attempt reader cursor = some (none, cursor) := by
  simp only [attempt, fails]

theorem attempt_of_some {reader : Reader α} {cursor after : Cursor} {value : α}
    (reads : reader cursor = some (value, after)) :
    attempt reader cursor = some (some value, after) := by
  simp only [attempt, reads]

theorem attempt_eq_some {reader : Reader α} {cursor after : Cursor} {value? : Option α}
    (read : attempt reader cursor = some (value?, after)) :
    value? = none ∧ after = cursor ∨
      ∃ value, value? = some value ∧ reader cursor = some (value, after) := by
  cases isValue : reader cursor with
  | none =>
    rw [attempt_of_none isValue] at read
    cases read
    exact .inl ⟨rfl, rfl⟩
  | some found =>
    rw [attempt_of_some isValue] at read
    cases read
    exact .inr ⟨found.1, rfl, rfl⟩

theorem onlyIf_eq_some {condition : Bool} {reader : Reader Bool} {cursor after : Cursor}
    {accepted : Bool} (read : onlyIf condition reader cursor = some (accepted, after)) :
    accepted = false ∧ after = cursor ∨ reader cursor = some (accepted, after) := by
  unfold onlyIf at read
  split at read
  · exact .inr read
  · cases read
    exact .inl ⟨rfl, rfl⟩

theorem expect_eq_some {mark : String} {cursor after : Cursor} {value : Unit} :
    expect mark cursor = some (value, after) ↔
      markOf? cursor.rest = some mark ∧ pass mark.length cursor = some ((), after) := by
  unfold expect
  rw [bind_apply, accept_apply]
  split
  · rename_i same
    cases pass mark.length cursor with
    | none => simp
    | some passed =>
      obtain ⟨_, middle⟩ := passed
      simp only [Option.map_some, Option.bind_some, require_eq_some, same, true_and,
        Option.some.injEq, Prod.mk.injEq]
      exact eq_comm
  · rename_i other
    simp [other, require_eq_some]

theorem expectWord_eq_some {text : String} {cursor after : Cursor} {value : Unit} :
    expectWord text cursor = some (value, after) ↔
      keywordOf? cursor.rest = some text ∧ pass text.length cursor = some ((), after) := by
  unfold expectWord
  rw [bind_apply, acceptWord_apply]
  split
  · rename_i same
    cases pass text.length cursor with
    | none => simp
    | some passed =>
      obtain ⟨_, middle⟩ := passed
      simp only [Option.map_some, Option.bind_some, require_eq_some, same, true_and,
        Option.some.injEq, Prod.mk.injEq]
      exact eq_comm
  · rename_i other
    simp [other, require_eq_some]

theorem anyWord_eq_some {cursor after : Cursor} {word : Word} :
    anyWord cursor = some (word, after) ↔
      wordOf? cursor.rest = some word ∧ pass word.size cursor = some ((), after) := by
  unfold anyWord
  rw [bind_of_some (word?_apply cursor), bind_eq_some]
  constructor
  · rintro ⟨found, middle, isWord, read⟩
    obtain ⟨_, _, passed, same⟩ := bind_eq_some.mp read
    cases same
    cases word? : wordOf? cursor.rest with
    | none =>
      rw [word?] at isWord
      cases isWord
    | some word =>
      rw [word?] at isWord
      cases isWord
      exact ⟨rfl, passed⟩
  · rintro ⟨isWord, passed⟩
    refine ⟨word, cursor, by rw [isWord]; rfl, ?_⟩
    rw [bind_of_some passed]
    rfl

/-- A word without escapes is written as it reads. -/
theorem eq_append_of_wordFrom {fuel : Nat} {done text name after : List Char} {escaped : Bool}
    (found : wordFrom fuel done text escaped = some (name, after, false)) :
    escaped = false ∧ ∃ taken, name = done.reverse ++ taken ∧ text = taken ++ after := by
  induction fuel, done, text, escaped using wordFrom.induct with
  | case1 => cases found
  | case2 fuel done rest escaped code after' isCode c starts ih =>
    rw [wordFrom, isCode] at found
    dsimp only at found
    rw [if_pos starts] at found
    exact absurd (ih found).1 Bool.noConfusion
  | case3 fuel done rest escaped code after' isCode c starts =>
    rw [wordFrom, isCode] at found
    dsimp only at found
    rw [if_neg starts] at found
    cases found
  | case4 fuel done rest escaped noCode =>
    rw [wordFrom, noCode] at found
    cases found
  | case5 fuel done c rest escaped noEscape goes ih =>
    rw [wordFrom.eq_3 _ _ _ _ _ noEscape, if_pos goes] at found
    obtain ⟨unescaped, taken, same, whole⟩ := ih found
    refine ⟨unescaped, c :: taken, ?_, by rw [whole]; rfl⟩
    rw [same, List.reverse_cons, List.append_assoc]
    rfl
  | case6 fuel done c rest escaped noEscape stops =>
    rw [wordFrom.eq_3 _ _ _ _ _ noEscape, if_neg stops] at found
    cases found
    exact ⟨rfl, [], (List.append_nil _).symm, rfl⟩
  | case7 =>
    cases found
    exact ⟨rfl, [], (List.append_nil _).symm, rfl⟩

theorem size_of_keywordOf? {text : List Char} {keyword : String}
    (isKeyword : keywordOf? text = some keyword) :
    ∃ word, wordOf? text = some word ∧ word.text = keyword ∧ word.size = keyword.length := by
  unfold keywordOf? at isKeyword
  split at isKeyword
  · rename_i word isWord
    split at isKeyword
    · cases isKeyword
    · rename_i plain
      refine ⟨word, isWord, Option.some.inj isKeyword, ?_⟩
      rw [← Option.some.inj isKeyword]
      unfold wordOf? at isWord
      split at isWord
      · rename_i name after escaped found
        split at isWord
        · cases isWord
        · cases isWord
          cases escaped with
          | true => exact absurd rfl plain
          | false =>
            obtain ⟨_, taken, same, whole⟩ := eq_append_of_wordFrom found
            rw [same, whole]
            simp
      · cases isWord
  · cases isKeyword

theorem anyWord_of_expectWord {keyword : String} {cursor after : Cursor} {value : Unit}
    (read : expectWord keyword cursor = some (value, after)) :
    ∃ word, anyWord cursor = some (word, after) ∧ word.text = keyword := by
  obtain ⟨isKeyword, passed⟩ := expectWord_eq_some.mp read
  obtain ⟨word, isWord, same, size⟩ := size_of_keywordOf? isKeyword
  rw [← size] at passed
  exact ⟨word, anyWord_eq_some.mpr ⟨isWord, passed⟩, same⟩

theorem expectWord_of_anyWord {keyword : String} {cursor after : Cursor} {word : Word}
    (isKeyword : keywordOf? cursor.rest = some keyword)
    (isWord : anyWord cursor = some (word, after)) :
    expectWord keyword cursor = some ((), after) := by
  obtain ⟨isWord, passed⟩ := anyWord_eq_some.mp isWord
  obtain ⟨word', isWord', _, size⟩ := size_of_keywordOf? isKeyword
  rw [isWord] at isWord'
  cases isWord'
  rw [size] at passed
  exact expectWord_eq_some.mpr ⟨isKeyword, passed⟩

/-- No mark is empty, none breaks the line, and none opens like a word. -/
theorem plain_of_mem_marks {mark : List Char} (member : mark ∈ marks) :
    mark ≠ [] ∧ '\n' ∉ mark ∧ mark.head?.all (fun c => !isWordStart c && c != '\\') = true := by
  have plain : ∀ mark ∈ marks, mark ≠ [] ∧ '\n' ∉ mark ∧
      mark.head?.all (fun c => !isWordStart c && c != '\\') = true := by
    decide +kernel
  exact plain mark member

theorem wordOf?_of_other {text : List Char}
    (other : text.head?.all (fun c => !isWordStart c && c != '\\') = true) :
    wordOf? text = none := by
  cases text with
  | nil => rfl
  | cons c rest =>
    simp only [List.head?_cons, Option.all_some, Bool.and_eq_true, Bool.not_eq_true',
      bne_iff_ne, ne_eq] at other
    have nothing : wordFrom (rest.length + 1 + 1) [] (c :: rest) false =
        some ([], c :: rest, false) := by
      rw [wordFrom]
      · simp [other.1]
      · intro rest' starts
        exact absurd starts other.2
    unfold wordOf?
    rw [List.length_cons, nothing]
    rfl

theorem prefix_of_find? {text mark : List Char}
    (found : marks.find? (fun mark => mark.isPrefixOf text) = some mark) : mark <+: text :=
  List.isPrefixOf_iff_prefix.mp
    (List.find?_some (p := fun mark : List Char => mark.isPrefixOf text) found)

theorem prefix_of_markOf? {text : List Char} {mark : String} (found : markOf? text = some mark) :
    mark.toList <+: text := by
  unfold markOf? at found
  split at found
  · cases found
  · rename_i mark' isFirst
    have starts := prefix_of_find? isFirst
    split at found
    · rename_i optional
      rw [← Option.some.inj found]
      rw [Bool.and_eq_true, beq_iff_eq] at optional
      rw [optional.1] at starts
      exact List.IsPrefix.trans ⟨['.'], rfl⟩ starts
    · rwa [← Option.some.inj found, String.toList_ofList]

/-- No text starts with a mark and a word. -/
theorem wordOf?_of_mark {text : List Char} {mark : String} (found : markOf? text = some mark) :
    wordOf? text = none := by
  unfold markOf? at found
  split at found
  · cases found
  · rename_i mark' isFirst
    obtain ⟨after, rfl⟩ := prefix_of_find? isFirst
    have member := List.mem_of_find?_eq_some isFirst
    apply wordOf?_of_other
    obtain ⟨nonempty, _, other⟩ := plain_of_mem_marks member
    cases mark' with
    | nil => exact absurd rfl nonempty
    | cons c mark' => exact other

theorem markOf?_eq_brace {text : List Char} :
    markOf? text = some "\x7b" ↔ text.head? = some '{' := by
  constructor
  · intro found
    obtain ⟨after, rfl⟩ := prefix_of_markOf? found
    rfl
  · intro starts
    obtain ⟨rest, rfl⟩ := List.head?_eq_some_iff.mp starts
    rfl

theorem markOf?_eq_semicolon {text : List Char} :
    markOf? text = some ";" ↔ text.head? = some ';' := by
  constructor
  · intro found
    obtain ⟨after, rfl⟩ := prefix_of_markOf? found
    rfl
  · intro starts
    obtain ⟨rest, rfl⟩ := List.head?_eq_some_iff.mp starts
    rfl

theorem keywordOf?_of_mark {text : List Char} {mark : String} (isMark : markOf? text = some mark) :
    keywordOf? text = none := by
  rw [keywordOf?, wordOf?_of_mark isMark]

theorem ofOption_eq_some {value? : Option α} {value : α}
    {cursor after : Cursor}
    (read : ofOption value? cursor = some (value, after)) : value? = some value := by
  unfold ofOption at read
  split at read
  · cases read
    rfl
  · cases read

end Reader

namespace Grammar

open Reader

variable {cursor after : Cursor}

/-- The mark or the keyword that a text starts with. -/
def tokenOf? (text : List Char) : Option String :=
  (markOf? text).or (keywordOf? text)

theorem token?_apply (cursor : Cursor) : token? cursor = some (tokenOf? cursor.rest, cursor) := by
  unfold token? tokenOf?
  rw [bind_of_some (mark?_apply cursor)]
  cases markOf? cursor.rest with
  | some mark => rfl
  | none =>
    rw [Option.none_or]
    exact keyword?_apply cursor

theorem acceptOneOf_eq_some {tokens : List String} {accepted? : Option String}
    (read : acceptOneOf tokens cursor = some (accepted?, after)) :
    accepted? = none ∧ after = cursor ∨
      ∃ token ∈ tokens, accepted? = some token ∧ tokenOf? cursor.rest = some token := by
  unfold acceptOneOf at read
  rw [bind_of_some (token?_apply cursor)] at read
  split at read
  · cases read
    exact .inl ⟨rfl, rfl⟩
  · rename_i token isToken
    split at read
    · rename_i member
      obtain ⟨_, _, _, same⟩ := bind_eq_some.mp read
      cases same
      exact .inr ⟨token, List.contains_iff_mem.mp member, rfl, isToken⟩
    · cases read
      exact .inl ⟨rfl, rfl⟩

end Grammar

end CssInline.Code
