import CssInline.Proofs.Enclosed.Lexeme

/-! Places in a text and in the same text in parentheses. At the end there is nothing in the text
itself, and one closing parenthesis otherwise. -/

namespace CssInline.Code

theorem blockComment?_append_closing (text : List Char) :
    blockComment? (text ++ closing) =
      (blockComment? text).map fun (comment, after) => (comment, after ++ closing) := by
  induction text using blockComment?.induct with
  | case1 rest => rfl
  | case2 c rest notEnd ih =>
    have notEnd' (after : List Char) (star : c = '*') (same : rest ++ closing = '/' :: after) :
        False := by
      cases rest with
      | nil => simp [closing] at same
      | cons d rest =>
        rw [List.cons_append, List.cons.injEq] at same
        exact notEnd rest star (by rw [same.1])
    rw [List.cons_append, blockComment?.eq_2 _ _ notEnd, blockComment?.eq_2 _ _ notEnd', ih,
      Option.map_map, Option.map_map]
    rfl
  | case3 => rfl

namespace Cursor

/-- The cursor with `closing` after what is left of the text. -/
def extended (cursor : Cursor) : Cursor :=
  { cursor with rest := cursor.rest ++ closing }

/-- The cursor at the first token from `extended` on, for one that stands at a token. -/
def enclosed (cursor : Cursor) : Cursor :=
  if cursor.rest = [] then ⟨[')'], cursor.line + 1, true, cursor.comments⟩ else cursor.extended

theorem enclosed_of_ended {cursor : Cursor} (ended : cursor.rest = []) :
    cursor.enclosed = ⟨[')'], cursor.line + 1, true, cursor.comments⟩ :=
  if_pos ended

theorem enclosed_of_inside {cursor : Cursor} (inside : cursor.rest ≠ []) :
    cursor.enclosed = cursor.extended :=
  if_neg inside

@[simp] theorem comments_enclosed (cursor : Cursor) :
    cursor.enclosed.comments = cursor.comments := by
  unfold enclosed
  split <;> rfl

theorem rest_enclosed_ne_nil (cursor : Cursor) : cursor.enclosed.rest ≠ [] := by
  unfold enclosed
  split
  · exact List.cons_ne_nil _ _
  · simp [extended, closing]

/-- Only at the end of the text is it unknown whether a line break came before. -/
theorem eq_of_enclosed_eq {cursor cursor' : Cursor} (inside : cursor.rest ≠ [])
    (same : cursor'.enclosed = cursor.enclosed) : cursor' = cursor := by
  rw [enclosed_of_inside inside] at same
  by_cases ended : cursor'.rest = []
  · rw [enclosed_of_ended ended] at same
    have length := congrArg (fun cursor : Cursor => cursor.rest.length) same
    simp [extended, closing] at length
  · rw [enclosed_of_inside ended] at same
    simp only [extended, mk.injEq, List.append_cancel_right_eq] at same
    obtain ⟨sameRest, sameLine, sameBreak, sameComments⟩ := same
    cases cursor
    cases cursor'
    simp_all

/-- The end of the text and a line break both end what may be left open. -/
theorem ends_enclosed (cursor : Cursor) :
    (cursor.enclosed.rest.isEmpty || cursor.enclosed.afterBreak) =
      (cursor.rest.isEmpty || cursor.afterBreak) := by
  unfold enclosed
  split
  · rename_i ended
    rw [ended]
    rfl
  · rename_i inside
    have begun : cursor.rest.isEmpty = false := List.isEmpty_eq_false_iff.mpr inside
    rw [begun]
    simp [extended, inside]

/-- What sees neither the line end nor the parenthesis sees the same in both texts. -/
theorem apply_rest_enclosed {f : List Char → α} (same : ∀ text, f (text ++ closing) = f text)
    (atEnd : f [')'] = f []) (cursor : Cursor) : f cursor.enclosed.rest = f cursor.rest := by
  unfold enclosed
  split
  · rename_i ended
    rw [ended]
    exact atEnd
  · exact same cursor.rest

theorem settleFrom_plain {c : Char} {rest : List Char} (line : Nat) (afterBreak : Bool)
    (comments : List Comment) (fuel : Nat)
    (plain : c = '/' → rest.head? ≠ some '/' ∧ rest.head? ≠ some '*') :
    settleFrom (fuel + 1) ⟨c :: rest, line, afterBreak, comments⟩ =
      if isLineBreak c then settleFrom fuel ⟨rest, line + lineFeeds [c], true, comments⟩
      else if isSpace c then settleFrom fuel ⟨rest, line, afterBreak, comments⟩
      else some ⟨c :: rest, line, afterBreak, comments⟩ := by
  rw [settleFrom]
  split
  · rename_i same
    cases same
    exact absurd rfl (plain rfl).1
  · rename_i same
    cases same
    exact absurd rfl (plain rfl).2
  · rename_i same
    cases same
    rfl
  · rename_i same
    cases same

theorem settleFrom_lineComment (rest : List Char) (line : Nat) (afterBreak : Bool)
    (comments : List Comment) (fuel : Nat) :
    settleFrom (fuel + 1) ⟨'/' :: '/' :: rest, line, afterBreak, comments⟩ =
      settleFrom fuel ⟨rest.dropWhile fun c => !isLineBreak c, line, afterBreak,
        comments ++ [⟨true, String.ofList (rest.takeWhile fun c => !isLineBreak c)⟩]⟩ := rfl

theorem settleFrom_blockComment (rest : List Char) (line : Nat) (afterBreak : Bool)
    (comments : List Comment) (fuel : Nat) :
    settleFrom (fuel + 1) ⟨'/' :: '*' :: rest, line, afterBreak, comments⟩ =
      (blockComment? rest).bind fun (text, after) =>
        settleFrom fuel ⟨after, line + lineFeeds text, afterBreak || text.any isLineBreak,
          comments ++ [⟨false, String.ofList text⟩]⟩ := by
  cases found : blockComment? rest <;> simp only [settleFrom, found] <;> rfl

theorem settleFrom_extended (fuel fuel' : Nat) (cursor : Cursor)
    (enough : cursor.rest.length < fuel) (enough' : cursor.rest.length + 2 < fuel') :
    cursor.extended.settleFrom fuel' = (cursor.settleFrom fuel).map enclosed := by
  induction fuel generalizing fuel' cursor with
  | zero => omega
  | succ fuel ih =>
    replace ih (fuel' : Nat) (rest : List Char) (line : Nat) (afterBreak : Bool)
        (comments : List Comment) (enough : rest.length < fuel)
        (enough' : rest.length + 2 < fuel') :
        settleFrom fuel' ⟨rest ++ closing, line, afterBreak, comments⟩ =
          (settleFrom fuel ⟨rest, line, afterBreak, comments⟩).map enclosed :=
      ih fuel' ⟨rest, line, afterBreak, comments⟩ enough enough'
    obtain ⟨fuel', rfl⟩ := Nat.exists_eq_succ_of_ne_zero (Nat.ne_zero_of_lt enough')
    obtain ⟨text, line, afterBreak, comments⟩ := cursor
    cases text with
    | nil =>
      obtain ⟨fuel', rfl⟩ := Nat.exists_eq_succ_of_ne_zero (show fuel' ≠ 0 by omega)
      rfl
    | cons c rest =>
      rw [List.length_cons] at enough enough'
      -- A slash at the end opens no comment: what closes the text starts with a line feed.
      by_cases comment : c = '/' ∧ (rest.head? = some '/' ∨ rest.head? = some '*')
      · obtain ⟨rfl, starts | starts⟩ := comment
        · obtain ⟨rest, rfl⟩ := List.head?_eq_some_iff.mp starts
          have shorter := (List.dropWhile_suffix (l := rest) fun c => !isLineBreak c).length_le
          rw [List.length_cons] at enough enough'
          refine (settleFrom_lineComment (rest ++ closing) line afterBreak comments fuel').trans ?_
          rw [settleFrom_lineComment, takeWhile_append_closing (by decide),
            dropWhile_append_closing (by decide)]
          exact ih _ _ _ _ _ (by omega) (by omega)
        · obtain ⟨rest, rfl⟩ := List.head?_eq_some_iff.mp starts
          rw [List.length_cons] at enough enough'
          refine (settleFrom_blockComment (rest ++ closing) line afterBreak comments fuel').trans ?_
          rw [settleFrom_blockComment, blockComment?_append_closing]
          cases found : blockComment? rest with
          | none => rfl
          | some found' =>
            obtain ⟨text, after⟩ := found'
            have shorter := congrArg List.length (eq_of_blockComment? found)
            simp only [List.length_append, List.length_cons] at shorter
            exact ih _ _ _ _ _ (by omega) (by omega)
      · have plain (slash : c = '/') : rest.head? ≠ some '/' ∧ rest.head? ≠ some '*' :=
          ⟨fun same => comment ⟨slash, .inl same⟩, fun same => comment ⟨slash, .inr same⟩⟩
        have plain' (slash : c = '/') : (rest ++ closing).head? ≠ some '/' ∧
            (rest ++ closing).head? ≠ some '*' := by
          cases rest with
          | nil => decide
          | cons d rest => exact plain slash
        rw [settleFrom_plain _ _ _ _ plain]
        refine (settleFrom_plain _ _ _ _ plain').trans ?_
        split
        · exact ih _ _ _ _ _ (by omega) (by omega)
        · split
          · exact ih _ _ _ _ _ (by omega) (by omega)
          · rfl

theorem settle?_extended (cursor : Cursor) :
    cursor.extended.settle? = cursor.settle?.map enclosed := by
  refine settleFrom_extended _ _ _ (Nat.lt_succ_self _) ?_
  simp only [extended, List.length_append]
  exact Nat.lt_succ_self _

theorem advance_extended {cursor : Cursor} {count : Nat} (inside : count ≤ cursor.rest.length) :
    cursor.extended.advance count = (cursor.advance count).extended := by
  simp only [advance, extended, Cursor.mk.injEq, and_self, and_true]
  rw [List.take_append_of_le_length inside]
  exact ⟨drop_append_closing inside, rfl⟩

theorem rest_advance (cursor : Cursor) (count : Nat) :
    (cursor.advance count).rest = cursor.rest.drop count := rfl

end Cursor

end CssInline.Code
