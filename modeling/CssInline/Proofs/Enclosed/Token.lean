import CssInline.Proofs.Enclosed.Literal
import CssInline.Proofs.Enclosed.Reader

/-! Readers of tokens. Before the end of a text they find the same in the text and in the text in
parentheses. -/

namespace CssInline.Code

namespace Reader

section Tokens

variable {limit reserve : Nat} {mayClose : Prop}

/-- What looks at the place alone. -/
theorem agree_here {f : Cursor → α} (same : ∀ cursor : Cursor, f cursor.enclosed = f cursor) :
    Agree limit mayClose reserve (do return f (← here)) (do return f (← here)) :=
  fun cursor _ => by
    change Meets mayClose (some (f cursor, cursor)) (some (f cursor.enclosed, cursor.enclosed))
    rw [same]
    exact .read _ cursor

theorem agree_requireHere {f : Cursor → Bool}
    (same : ∀ cursor : Cursor, f cursor.enclosed = f cursor) :
    Agree limit mayClose reserve (do require (f (← here))) (do require (f (← here))) :=
  fun cursor enough => by
    change Meets mayClose (require (f cursor) cursor) (require (f cursor.enclosed) cursor.enclosed)
    rw [same]
    exact agree_require _ cursor enough

/-- What looks ahead only as far as the text goes. -/
theorem agree_remaining {f : List Char → α} (same : ∀ text, f (text ++ closing) = f text)
    (atEnd : f [')'] = f []) :
    Agree limit mayClose reserve (do return f (← remaining)) (do return f (← remaining)) :=
  agree_here (f := fun cursor => f cursor.rest) (Cursor.apply_rest_enclosed same atEnd)

theorem wordOf?_enclosed (cursor : Cursor) :
    wordOf? cursor.enclosed.rest = wordOf? cursor.rest :=
  Cursor.apply_rest_enclosed wordOf?_append_closing (wordOf?_of_other (by decide)) cursor

theorem keywordOf?_enclosed (cursor : Cursor) :
    keywordOf? cursor.enclosed.rest = keywordOf? cursor.rest := by
  rw [keywordOf?, keywordOf?, wordOf?_enclosed]

/-- The mark at a place: only at the end of the text there is another one in parentheses. -/
theorem markOf?_enclosed (cursor : Cursor) :
    markOf? cursor.enclosed.rest =
      if cursor.rest = [] then some ")" else markOf? cursor.rest := by
  split
  · rename_i ended
    rw [Cursor.enclosed_of_ended ended]
    exact (by decide : markOf? [')'] = some ")")
  · rename_i inside
    rw [Cursor.enclosed_of_inside inside]
    exact markOf?_append_closing cursor.rest

theorem markOf?_enclosed_eq {mark : String} (other : mark ≠ ")") (cursor : Cursor) :
    markOf? cursor.enclosed.rest = some mark ↔ markOf? cursor.rest = some mark := by
  rw [markOf?_enclosed]
  split
  · rename_i ended
    rw [ended]
    exact ⟨fun same => absurd (Option.some.inj same).symm other, nofun⟩
  · exact Iff.rfl

theorem pass_apply (count : Nat) (cursor : Cursor) :
    pass count cursor = (cursor.advance count).settle?.map fun after => ((), after) := rfl

theorem meets_passExtended {count : Nat} {cursor : Cursor} (inside : count ≤ cursor.rest.length) :
    Meets mayClose (pass count cursor) (pass count cursor.extended) := by
  rw [pass_apply, pass_apply, Cursor.advance_extended inside, Cursor.settle?_extended]
  cases (cursor.advance count).settle? with
  | none => exact .failed
  | some after => exact .read () after

theorem meets_pass {count : Nat} {cursor : Cursor} (going : 0 < count)
    (inside : count ≤ cursor.rest.length) :
    Meets mayClose (pass count cursor) (pass count cursor.enclosed) := by
  rw [Cursor.enclosed_of_inside (List.length_pos_iff.mp (Nat.lt_of_lt_of_le going inside))]
  exact meets_passExtended inside

theorem length_of_pass {count : Nat} {cursor after : Cursor} {value : Unit}
    (read : pass count cursor = some (value, after)) :
    after.rest.length ≤ cursor.rest.length - count := by
  rw [pass_apply] at read
  obtain ⟨after', settled, same⟩ := Option.map_eq_some_iff.mp read
  cases same
  have shorter := (Cursor.settleFrom_reaches _ settled).suffix.length_le
  rwa [Cursor.rest_advance, List.length_drop] at shorter

theorem isMark_enclosed {mark : String} (other : mark ≠ ")") (cursor : Cursor) :
    (markOf? cursor.enclosed.rest == some mark) = (markOf? cursor.rest == some mark) := by
  rw [Bool.eq_iff_iff, beq_iff_eq, beq_iff_eq, markOf?_enclosed_eq other]

@[simp] theorem agree_atMark {mark : String} (other : mark ≠ ")") :
    Agree limit mayClose reserve (atMark mark) (atMark mark) :=
  agree_here (f := fun cursor => markOf? cursor.rest == some mark) (isMark_enclosed other)

theorem takes_pass {count : Nat} {cursor after : Cursor} {value : Unit} (going : 0 < count)
    (inside : count ≤ cursor.rest.length) (read : pass count cursor = some (value, after)) :
    after.rest.length < cursor.rest.length := by
  have := length_of_pass read
  omega

theorem meets_accept {mark : String} {cursor : Cursor}
    (same : markOf? cursor.enclosed.rest = some mark ↔ markOf? cursor.rest = some mark) :
    Meets mayClose (accept mark cursor) (accept mark cursor.enclosed) := by
  rw [accept_apply, accept_apply]
  simp only [same]
  split
  · rename_i isMark
    obtain ⟨going, inside⟩ := length_of_markOf? isMark
    exact (meets_pass going inside).map fun _ => true
  · exact .read false cursor

@[simp] theorem agree_accept {mark : String} (other : mark ≠ ")") :
    Agree limit mayClose reserve (accept mark) (accept mark) := fun cursor _ =>
  meets_accept (markOf?_enclosed_eq other cursor)

@[simp] theorem agree_expect {mark : String} (other : mark ≠ ")") :
    Agree limit mayClose reserve (expect mark) (expect mark) :=
  (agree_accept other).bind fun accepted => agree_require accepted

theorem takesIf_accept (mark : String) : (accept mark).TakesIf (· = true) := by
  intro cursor value after read taken
  rw [accept_apply] at read
  split at read
  · rename_i isMark
    obtain ⟨going, inside⟩ := length_of_markOf? isMark
    obtain ⟨_, passed, same⟩ := Option.map_eq_some_iff.mp read
    cases same
    exact takes_pass going inside passed
  · cases read
    cases taken

@[simp] theorem takes_expect (mark : String) : (expect mark).Takes := by
  intro cursor value after read _
  obtain ⟨isMark, passed⟩ := expect_eq_some.mp read
  obtain ⟨going, inside⟩ := length_of_markOf? isMark
  exact takes_pass going inside passed

@[simp] theorem agree_word? : Agree limit mayClose reserve word? word? :=
  agree_remaining wordOf?_append_closing (wordOf?_of_other (by decide))

@[simp] theorem agree_keyword? :
    Agree limit mayClose reserve keyword? keyword? := fun cursor _ => by
  rw [keyword?_apply, keyword?_apply, keywordOf?_enclosed]
  exact .read _ cursor

@[simp] theorem agree_atWord (text : String) :
    Agree limit mayClose reserve (atWord text) (atWord text) :=
  agree_keyword?.bind fun _ => agree_pure _

@[simp] theorem agree_acceptWord (text : String) :
    Agree limit mayClose reserve (acceptWord text) (acceptWord text) := fun cursor _ => by
  rw [acceptWord_apply, acceptWord_apply, keywordOf?_enclosed]
  split
  · rename_i isKeyword
    obtain ⟨going, inside⟩ := length_of_keywordOf? isKeyword
    exact (meets_pass going inside).map fun _ => true
  · exact .read false cursor

theorem takesIf_acceptWord (text : String) : (acceptWord text).TakesIf (· = true) := by
  intro cursor value after read taken
  rw [acceptWord_apply] at read
  split at read
  · rename_i isKeyword
    obtain ⟨going, inside⟩ := length_of_keywordOf? isKeyword
    obtain ⟨_, passed, same⟩ := Option.map_eq_some_iff.mp read
    cases same
    exact takes_pass going inside passed
  · cases read
    cases taken

@[simp] theorem agree_expectWord (text : String) :
    Agree limit mayClose reserve (expectWord text) (expectWord text) :=
  (agree_acceptWord text).bind fun accepted => agree_require accepted

@[simp] theorem takes_expectWord (text : String) : (expectWord text).Takes := by
  intro cursor value after read _
  obtain ⟨isKeyword, passed⟩ := expectWord_eq_some.mp read
  obtain ⟨going, inside⟩ := length_of_keywordOf? isKeyword
  exact takes_pass going inside passed

/-- A token that is found in the text ahead. -/
theorem agree_token (f : List Char → Option α) (size : α → Nat) (value : α → List Char → β)
    (same : ∀ text, f (text ++ closing) = f text) (atEnd : f [')'] = f [])
    (bounds : ∀ {text found}, f text = some found → 0 < size found ∧ size found ≤ text.length)
    (inside : ∀ {text found}, f text = some found →
      value found (text ++ closing) = value found text) :
    Agree limit mayClose reserve (do
      let text ← remaining
      let found ← ofOption (f text)
      pass (size found)
      return value found text) (do
      let text ← remaining
      let found ← ofOption (f text)
      pass (size found)
      return value found text) := fun cursor _ => by
  have same' := Cursor.apply_rest_enclosed same atEnd cursor
  rw [bind_of_some (rfl : remaining cursor = some (cursor.rest, cursor)),
    bind_of_some (rfl : remaining cursor.enclosed = some (cursor.enclosed.rest, cursor.enclosed)),
    same']
  cases found : f cursor.rest with
  | none => exact .failed
  | some token =>
    obtain ⟨going, short⟩ := bounds found
    have begun : cursor.rest ≠ [] := List.length_pos_iff.mp (Nat.lt_of_lt_of_le going short)
    have sameValue : value token cursor.enclosed.rest = value token cursor.rest := by
      rw [Cursor.enclosed_of_inside begun]
      exact inside found
    change Meets mayClose
      ((pass (size token) >>= fun _ => pure (value token cursor.rest)) cursor)
      ((pass (size token) >>= fun _ => pure (value token cursor.enclosed.rest)) cursor.enclosed)
    rw [sameValue]
    exact (meets_pass going short).bind fun _ after _ => .read _ after

theorem takes_token (f : List Char → Option α) (size : α → Nat) (value : α → List Char → β)
    (bounds : ∀ {text found}, f text = some found → 0 < size found ∧ size found ≤ text.length) :
    Takes (do
      let text ← remaining
      let found ← ofOption (f text)
      pass (size found)
      return value found text) := by
  intro cursor result after read _
  rw [bind_of_some (rfl : remaining cursor = some (cursor.rest, cursor))] at read
  obtain ⟨token, middle, isToken, read⟩ := bind_eq_some.mp read
  obtain ⟨going, short⟩ := bounds (ofOption_eq_some isToken)
  obtain rfl : middle = cursor := by
    rw [ofOption_eq_some isToken] at isToken
    exact (Prod.mk.inj (Option.some.inj isToken)).2.symm
  obtain ⟨_, _, passed, same⟩ := bind_eq_some.mp read
  cases same
  exact takes_pass going short passed

@[simp] theorem agree_anyWord : Agree limit mayClose reserve anyWord anyWord := fun cursor enough =>
  agree_token wordOf? Word.size (fun word _ => word)
    wordOf?_append_closing (wordOf?_of_other (by decide)) length_of_wordOf? (fun _ => rfl)
    cursor enough

@[simp] theorem takes_anyWord : anyWord.Takes :=
  takes_token wordOf? Word.size (fun word _ => word) length_of_wordOf?

@[simp] theorem agree_quotedString (octal : Bool) :
    Agree limit mayClose reserve (quotedString octal) (quotedString octal) :=
  fun cursor enough =>
    agree_token (stringLexeme? octal) Prod.snd (fun found _ => found.1)
      (stringLexeme?_append_closing octal) rfl length_of_stringLexeme? (fun _ => rfl) cursor enough

@[simp] theorem agree_number (octal : Bool) :
    Agree limit mayClose reserve (number octal) (number octal) :=
  agree_token (numberLength? octal) id (fun size text => String.ofList (text.take size))
    (numberLength?_append_closing octal) (by cases octal <;> decide) length_of_numberLength?
    fun found => by rw [List.take_append_of_le_length (length_of_numberLength? found).2]

@[simp] theorem agree_regex : Agree limit mayClose reserve regex regex :=
  agree_token regexLength? id (fun size text => String.ofList (text.take size))
    regexLength?_append_closing rfl length_of_regexLength?
    fun found => by rw [List.take_append_of_le_length (length_of_regexLength? found).2]

@[simp] theorem takes_quotedString (octal : Bool) : (quotedString octal).Takes :=
  takes_token (stringLexeme? octal) Prod.snd (fun found _ => found.1) length_of_stringLexeme?

@[simp] theorem takes_number (octal : Bool) : (number octal).Takes :=
  takes_token (numberLength? octal) id (fun size text => String.ofList (text.take size))
    length_of_numberLength?

@[simp] theorem takes_regex : regex.Takes :=
  takes_token regexLength? id (fun size text => String.ofList (text.take size))
    length_of_regexLength?

/-! At the end of the text -/

/-- What takes something beyond the text takes the closing parenthesis. -/
theorem meets_ended {reader reader' : Reader α} {cursor : Cursor} (ended : cursor.rest = [])
    (fails : reader cursor = none)
    (takes : ∀ {value after}, reader' cursor.enclosed = some (value, after) →
      after.rest.length < cursor.enclosed.rest.length) :
    Meets True (reader cursor) (reader' cursor.enclosed) := by
  rw [fails]
  cases found : reader' cursor.enclosed with
  | none => exact .failed
  | some result =>
    have shorter := takes found
    rw [Cursor.enclosed_of_ended ended] at shorter
    exact .closed trivial (List.length_eq_zero_iff.mp (Nat.lt_one_iff.mp shorter))

theorem meets_accept_inside {mark : String} {cursor : Cursor} (inside : cursor.rest ≠ []) :
    Meets mayClose (accept mark cursor) (accept mark cursor.enclosed) :=
  meets_accept (by rw [markOf?_enclosed, if_neg inside])

@[simp] theorem agree_expectParen : Agree limit True reserve (expect ")") (expect ")") :=
  fun cursor _ => by
    by_cases ended : cursor.rest = []
    · exact meets_ended ended ((takes_expect _).ended ended) fun read => takes_expect _ read trivial
    · refine (meets_accept_inside ended).bind fun accepted after _ => ?_
      cases accepted with
      | true => exact .read () after
      | false => exact .failed

/-- A closing parenthesis where something else must follow without one. -/
theorem Agree.acceptParen {next next' : Bool → Reader α}
    (taken : Agree limit True 16 (next true) (next' true))
    (other : Agree limit True reserve (next false) (next' false)) (takes : (next false).Takes) :
    Agree limit True reserve (accept ")" >>= next) (accept ")" >>= next') := fun cursor enough => by
  by_cases ended : cursor.rest = []
  · have fails : (accept ")" >>= next) cursor = none := by
      have none : markOf? cursor.rest ≠ some ")" := by
        rw [ended]
        decide
      rw [bind_of_some (by rw [accept_apply, if_neg none]), takes.ended ended]
    refine meets_ended ended fails fun read => ?_
    obtain ⟨accepted, middle, first, read⟩ := bind_eq_some.mp read
    have isParen : markOf? cursor.enclosed.rest = some ")" := by
      rw [markOf?_enclosed, if_pos ended]
    have taken : accepted = true := by
      rw [accept_apply, if_pos isParen] at first
      obtain ⟨_, _, same⟩ := Option.map_eq_some_iff.mp first
      cases same
      rfl
    exact Nat.lt_of_le_of_lt (length_le read) (takesIf_accept _ first taken)
  · refine (meets_accept_inside ended).bind fun accepted after read => ?_
    have shorter := length_le read
    cases accepted with
    | true =>
      have taking := takesIf_accept ")" read rfl
      exact taken after (by omega)
    | false => exact other after (by omega)

/-- Something that may follow on the same line, of which there is nothing at the end. -/
theorem Agree.unlessBreak {value : α} {next next' : Reader α}
    (agree : Agree limit mayClose reserve next next')
    (nothing : ∀ {cursor : Cursor}, cursor.rest = [] → next cursor = some (value, cursor)) :
    Agree limit mayClose reserve (afterBreak >>= fun broken => if broken then pure value else next)
      (afterBreak >>= fun broken => if broken then pure value else next') := fun cursor enough => by
  change Meets mayClose ((if cursor.afterBreak then pure value else next : Reader α) cursor)
    ((if cursor.enclosed.afterBreak then pure value else next' : Reader α) cursor.enclosed)
  by_cases ended : cursor.rest = []
  · have found : (if cursor.afterBreak then pure value else next : Reader α) cursor =
        some (value, cursor) := by
      split
      · rfl
      · exact nothing ended
    have broken : cursor.enclosed.afterBreak = true := by rw [Cursor.enclosed_of_ended ended]
    rw [found, broken]
    exact .read value cursor
  · have same : cursor.enclosed.afterBreak = cursor.afterBreak := by
      rw [Cursor.enclosed_of_inside ended]
      rfl
    rw [same]
    split
    · exact .read value cursor
    · exact agree cursor enough

/-- A reader that starts with a token, if the token is there. -/
theorem Agree.afterToken {token : Reader Bool} {next next' : Bool → Reader α}
    (agree : Agree limit mayClose reserve token token) (takes : token.TakesIf (· = true))
    (taken : Agree limit mayClose 16 (next true) (next' true))
    (other : Agree limit mayClose reserve (next false) (next' false)) :
    Agree limit mayClose reserve (token >>= next) (token >>= next') :=
  .afterIf takes agree (fun _ isTrue => isTrue ▸ taken) fun _ isFalse =>
    Bool.eq_false_iff.mpr isFalse ▸ other

/-- Where only a parenthesis stands for nothing, both readers go the same way. -/
theorem Agree.markAt {next next' : Option String → Reader α} (same : next' (some ")") = next' none)
    (agree : ∀ {cursor : Cursor} {mark? : Option String}, markOf? cursor.rest = mark? →
      16 * cursor.rest.length + reserve ≤ limit →
        Meets mayClose (next mark? cursor) (next' mark? cursor.enclosed)) :
    Agree limit mayClose reserve (mark? >>= next) (mark? >>= next') := fun cursor enough => by
  rw [bind_of_some (mark?_apply cursor), bind_of_some (mark?_apply cursor.enclosed),
    markOf?_enclosed]
  split
  · rename_i ended
    rw [same, ended]
    exact agree (by rw [ended]) enough
  · exact agree rfl enough

theorem TakesIf.markAt {holds : α → Prop} {next : Option String → Reader α}
    (takes : ∀ {cursor after : Cursor} {mark? : Option String} {value : α},
      markOf? cursor.rest = mark? → next mark? cursor = some (value, after) → holds value →
        after.rest.length < cursor.rest.length) : (mark? >>= next).TakesIf holds := by
  intro cursor value after read held
  rw [bind_of_some (mark?_apply cursor)] at read
  exact takes rfl read held

theorem Agree.mark? {next next' : Option String → Reader α} (same : next' (some ")") = next' none)
    (agree : ∀ mark?, Agree limit mayClose reserve (next mark?) (next' mark?)) :
    Agree limit mayClose reserve (mark? >>= next) (mark? >>= next') :=
  .markAt same fun _ enough => agree _ _ enough

/-- A number of a line at which something follows. -/
theorem Agree.lineNumber {next next' : Nat → Reader α} (takes : ∀ line, (next line).Takes)
    (agree : ∀ line, Agree limit mayClose reserve (next line) (next' line)) :
    Agree limit mayClose reserve (lineNumber >>= next) (lineNumber >>= next') :=
  fun cursor enough => by
    change Meets mayClose (next cursor.line cursor) (next' cursor.enclosed.line cursor.enclosed)
    by_cases ended : cursor.rest = []
    · rw [(takes _).ended ended, ← (takes cursor.enclosed.line).ended ended]
      exact agree _ cursor enough
    · have same : cursor.enclosed.line = cursor.line := by
        rw [Cursor.enclosed_of_inside ended]
        rfl
      rw [same]
      exact agree _ cursor enough

/-- Something that must follow on the same line. -/
theorem Agree.sameLine {next next' : Unit → Reader α} (takes : (next ()).Takes)
    (agree : Agree limit mayClose reserve (next ()) (next' ())) :
    Agree limit mayClose reserve (afterBreak >>= fun broken => require (!broken) >>= next)
      (afterBreak >>= fun broken => require (!broken) >>= next') := fun cursor enough => by
  change Meets mayClose ((require (!cursor.afterBreak) >>= next) cursor)
    ((require (!cursor.enclosed.afterBreak) >>= next') cursor.enclosed)
  by_cases ended : cursor.rest = []
  · rw [Cursor.enclosed_of_ended ended]
    have fails : (require (!cursor.afterBreak) >>= next) cursor = none := by
      cases cursor.afterBreak with
      | true => rfl
      | false => exact takes.ended ended
    rw [fails]
    exact .failed
  · have same : cursor.enclosed.afterBreak = cursor.afterBreak := by
      rw [Cursor.enclosed_of_inside ended]
      rfl
    rw [same]
    exact ((agree_require _).bind fun _ => agree) cursor enough

end Tokens

end Reader

end CssInline.Code
