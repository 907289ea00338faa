import CssInline.Proofs.Exposure.Insertion
import Mathlib.Data.List.TakeWhile

/-! Exposed placeholders are not exposed again. The scanner goes through what was exposed in the
same steps, but for a detour into each of the substitutions. -/

namespace CssInline.Placeholder

variable {stem : List Char} {count : Nat} {region next : Region} {outer outerNext : List Region}
  {c : Char} {rest : List Char} {more : Nat}

/-! The first character of what is exposed -/

/-- It is the first character of the text, unless a placeholder is exposed there. -/
theorem head?_exposedIn (count : Nat) (isStem : IsStem stem) (region : Region) (outer : List Region)
    (text : List Char) :
    (exposedIn stem count region outer text).head? = text.head? ∨
      region = .template ∧ (∃ found, take? stem count text = some found) ∧
        (exposedIn stem count region outer text).head? = some '$' := by
  cases text with
  | nil => exact .inl rfl
  | cons c rest =>
    obtain ⟨next, outerNext, more, step⟩ := exists_stepRegion region outer c rest
    by_cases noHole : region = .template → take? stem count (c :: rest) = none
    · rw [exposedIn_pass isStem noHole step]
      exact .inl rfl
    · obtain ⟨rfl, hole⟩ := Classical.not_imp.mp noHole
      obtain ⟨found, taken⟩ := Option.ne_none_iff_exists'.mp hole
      refine .inr ⟨rfl, ⟨found, taken⟩, ?_⟩
      rw [exposedIn_hole isStem taken]
      rfl

theorem head?_exposedIn_code (count : Nat) (isStem : IsStem stem) (braces : Nat)
    (outer : List Region) (text : List Char) :
    (exposedIn stem count (.code braces) outer text).head? = text.head? := by
  cases head?_exposedIn count isStem (.code braces) outer text with
  | inl same => exact same
  | inr hole => cases hole.1

/-! No placeholders come about -/

/-- Characters of names come from the text. -/
theorem exposedIn_names (isStem : IsStem stem) {text before after : List Char}
    (names : ∀ c ∈ before, isNameChar c = true)
    (whole : exposedIn stem count .template outer text = before ++ after) :
    ∃ left, text = before ++ left ∧ after = exposedIn stem count .template outer left := by
  induction before generalizing text with
  | nil => exact ⟨text, rfl, whole.symm⟩
  | cons c before ih =>
    have isName := names c List.mem_cons_self
    cases taken : take? stem count text with
    | some found =>
      rw [exposedIn_hole isStem taken] at whole
      rw [← (List.cons.inj whole).1] at isName
      exact absurd isName (by decide)
    | none =>
      cases text with
      | nil => cases whole
      | cons d rest =>
        obtain ⟨next, outerNext, more, step⟩ := exists_stepRegion .template outer d rest
        have first := whole
        rw [exposedIn_pass isStem (fun _ => taken) step] at first
        obtain rfl : d = c := (List.cons.inj first).1
        rw [exposedIn_stays isStem (fun _ => taken)
          (stays_of_isNameChar (fun _ same => by cases same) isName rest)] at whole
        obtain ⟨left, same, behind⟩ :=
          ih (fun e member => names e (List.mem_cons_of_mem d member)) (List.cons.inj whole).2
        exact ⟨left, congrArg (d :: ·) same, behind⟩

/-- Where no placeholder was, there is none afterwards. -/
theorem take?_exposedIn (isStem : IsStem stem) (missing : take? stem count (c :: rest) = none) :
    take? stem count (c :: exposedIn stem count .template outer rest) = none := by
  cases taken : take? stem count (c :: exposedIn stem count .template outer rest) with
  | none => rfl
  | some found =>
    obtain ⟨id, after⟩ := found
    obtain ⟨ending, begins, whole⟩ := name_of_take? isStem taken
    have names : ∀ d ∈ ending, isNameChar d = true := fun d member =>
      isNameChar_of_mem_name isStem (by rw [begins]; exact List.mem_cons_of_mem c member)
    obtain ⟨left, same, behind⟩ := exposedIn_names isStem names whole
    obtain ⟨_, ends, small, bounded⟩ := take?_eq_some.mp taken
    have noDigit : left.head?.any Char.isDigit = false := by
      cases head?_exposedIn count isStem .template outer left with
      | inl kept => rwa [behind, kept] at ends
      | inr hole =>
        obtain ⟨found, isHole⟩ := hole.2.1
        exact noDigit_of_starts isStem (starts_of_take? isHole)
    have again : take? stem count (c :: rest) = some (id, left) := by
      refine take?_eq_some.mpr ⟨?_, noDigit, small, bounded⟩
      rw [same, begins, List.cons_append]
    cases missing.symm.trans again

/-! Steps through what was exposed -/

theorem blockCommentLength_pos (c : Char) (rest : List Char) :
    0 < Scanner.blockCommentLength (c :: rest) := by
  unfold Scanner.blockCommentLength
  split <;> first | omega | contradiction

/-- A comment is as long as before, unless something comes behind one that has no end. -/
theorem blockCommentLength_take {text after : List Char}
    (ends : text.drop (Scanner.blockCommentLength text) = [] → after = []) :
    Scanner.blockCommentLength (text.take (Scanner.blockCommentLength text) ++ after) =
      Scanner.blockCommentLength text := by
  induction text using Scanner.blockCommentLength.induct with
  | case1 rest => rfl
  | case2 c rest notEnd ih =>
    have length : Scanner.blockCommentLength (c :: rest) =
        Scanner.blockCommentLength rest + 1 := by
      rw [Scanner.blockCommentLength]
      exact notEnd
    rw [length, List.drop_succ_cons] at ends
    rw [length, List.take_succ_cons, List.cons_append, Scanner.blockCommentLength, ih ends]
    intro tail isStar starts
    cases rest with
    | nil =>
      rw [ends rfl] at starts
      cases starts
    | cons d rest =>
      obtain ⟨size, positive⟩ := Nat.exists_eq_succ_of_ne_zero
        (Nat.ne_of_gt (blockCommentLength_pos d rest))
      rw [positive, List.take_succ_cons] at starts
      exact notEnd rest isStar (congrArg (· :: rest) (List.cons.inj starts).1)
  | case3 =>
    rw [ends rfl]
    rfl

/-- Looking ahead in code, the scanner sees the same as before. -/
theorem stepRegion_exposedIn_code (isStem : IsStem stem) {braces : Nat}
    (step : ∀ previous, (Scanner.mk (.code braces) outer previous).stepRegion c rest =
      (⟨next, outerNext, previous⟩, more)) (previous : Option Char) :
    (Scanner.mk (.code braces) outer previous).stepRegion c
        (rest.take more ++ exposedIn stem count next outerNext (rest.drop more)) =
      (⟨next, outerNext, previous⟩, more) := by
  have stepped := step previous
  unfold Scanner.stepRegion at stepped ⊢
  dsimp only at stepped ⊢
  split at stepped
  · rename_i isLine
    cases stepped
    obtain ⟨passed, left, rfl, all, ends⟩ : ∃ passed left, passed ++ left = rest ∧
        (∀ c ∈ passed, (c != '\n') = true) ∧ left.head?.any (· != '\n') = false :=
      ⟨_, _, List.takeWhile_append_dropWhile, fun _ => List.mem_takeWhile_imp,
        head?_dropWhile (· != '\n') rest⟩
    have kept := head?_exposedIn_code count isStem braces outer left
    rw [(takeWhile_append_of_ends all ends).1, List.take_left, List.drop_left]
    rw [if_pos ⟨isLine.1, by rw [List.head?_append, kept, ← List.head?_append]; exact isLine.2⟩]
    -- The comment ends where it ended: what comes after it starts with the same character.
    rw [← kept] at ends
    rw [(takeWhile_append_of_ends all ends).1]
  split at stepped
  · rename_i noLine isBlock
    cases stepped
    obtain ⟨inside, rfl⟩ := List.head?_eq_some_iff.mp isBlock.2
    obtain ⟨size, positive⟩ := Nat.exists_eq_succ_of_ne_zero
      (Nat.ne_of_gt (blockCommentLength_pos '*' inside))
    have opens : (('*' :: inside).take (Scanner.blockCommentLength ('*' :: inside)) ++
        exposedIn stem count (.code braces) outer
          (('*' :: inside).drop (Scanner.blockCommentLength ('*' :: inside)))).head? =
        some '*' := by
      rw [positive]
      rfl
    rw [if_neg (by rw [opens]; simp), if_pos ⟨isBlock.1, opens⟩, blockCommentLength_take]
    intro ended
    rw [ended]
    rfl
  · rename_i noLine noBlock
    obtain ⟨moved, rfl⟩ := Prod.mk.inj stepped
    rw [List.take_zero, List.nil_append, List.drop_zero]
    -- Only behind a slash the scanner looks at the next character.
    have kept (isSlash : c = '/') :
        (exposedIn stem count next outerNext rest).head? = rest.head? := by
      rw [isSlash] at moved
      cases moved
      exact head?_exposedIn_code count isStem braces outer rest
    rw [if_neg fun line => noLine ⟨line.1, (kept line.1).symm.trans line.2⟩,
      if_neg fun block => noBlock ⟨block.1, (kept block.1).symm.trans block.2⟩, moved]

/-- Looking ahead, the scanner sees the same as before. -/
theorem stepRegion_exposedIn (isStem : IsStem stem)
    (step : ∀ previous, (Scanner.mk region outer previous).stepRegion c rest =
      (⟨next, outerNext, previous⟩, more)) (previous : Option Char) :
    (Scanner.mk region outer previous).stepRegion c
        (rest.take more ++ exposedIn stem count next outerNext (rest.drop more)) =
      (⟨next, outerNext, previous⟩, more) := by
  cases region with
  | code braces => exact stepRegion_exposedIn_code isStem step previous
  | quoted mark => exact step previous
  | template =>
    have stepped := step previous
    unfold Scanner.stepRegion at stepped ⊢
    dsimp only at stepped ⊢
    split at stepped
    · rename_i isEscape
      rw [if_pos isEscape, stepped]
    rename_i noEscape
    split at stepped
    · rename_i isEnd
      rw [if_neg noEscape, if_pos isEnd, stepped]
    rename_i noEnd
    split at stepped
    · rename_i opens
      obtain ⟨after, rfl⟩ := List.head?_eq_some_iff.mp opens.2
      cases stepped
      rw [if_neg noEscape, if_neg noEnd, if_pos ⟨opens.1, rfl⟩]
      rfl
    · rename_i noOpening
      cases stepped
      rw [if_neg noEscape, if_neg noEnd, if_neg]
      rintro ⟨isDollar, isBrace⟩
      rw [List.take_zero, List.nil_append, List.drop_zero] at isBrace
      cases head?_exposedIn count isStem .template outer rest with
      | inl same => exact noOpening ⟨isDollar, same.symm.trans isBrace⟩
      | inr hole => cases hole.2.2.symm.trans isBrace

/-- The name between the marks of a substitution is passed over as code. -/
theorem exposedIn_code_names (isStem : IsStem stem) {braces : Nat} {names : List Char}
    (areNames : ∀ c ∈ names, isNameChar c = true) (after : List Char) :
    exposedIn stem count (.code braces) outer (names ++ after) =
      names ++ exposedIn stem count (.code braces) outer after := by
  induction names with
  | nil => rfl
  | cons c names ih =>
    have stays : Stays (.code braces) c (names ++ after) :=
      stays_of_isNameChar (fun _ same => by cases same) (areNames c List.mem_cons_self) _
    rw [List.cons_append, exposedIn_stays isStem (fun same => by cases same) stays,
      ih fun d member => areNames d (List.mem_cons_of_mem c member)]
    rfl

theorem exposedIn_substitution (isStem : IsStem stem) (id : Nat) (after : List Char) :
    exposedIn stem count .template outer ('$' :: '{' :: (name stem id ++ '}' :: after)) =
      '$' :: '{' :: (name stem id ++ '}' :: exposedIn stem count .template outer after) := by
  have opens : ∀ previous, (Scanner.mk .template outer previous).stepRegion '$'
      ('{' :: (name stem id ++ '}' :: after)) = (⟨.code 0, .template :: outer, previous⟩, 1) :=
    fun previous => by simp [Scanner.stepRegion, Scanner.enter]
  have opened : exposedIn stem count .template outer
      ('$' :: '{' :: (name stem id ++ '}' :: after)) =
      '$' :: '{' :: exposedIn stem count (.code 0) (.template :: outer)
        (name stem id ++ '}' :: after) :=
    exposedIn_pass isStem (fun _ => take?_of_not_name isStem (by decide) _) opens
  have closes : ∀ previous, (Scanner.mk (.code 0) (.template :: outer) previous).stepRegion '}'
      after = (⟨.template, outer, previous⟩, 0) :=
    fun previous => by simp [Scanner.stepRegion, Scanner.stepCodeMark, Scanner.leave]
  have closed : exposedIn stem count (.code 0) (.template :: outer) ('}' :: after) =
      '}' :: exposedIn stem count .template outer after :=
    exposedIn_pass isStem (fun same => by cases same) closes
  rw [opened, exposedIn_code_names isStem (fun c => isNameChar_of_mem_name isStem), closed]

/-- A start is taken off again where something follows only if it is as long as was asked for. -/
theorem take_append_of_ends {text after : List Char} {size : Nat}
    (ends : text.drop size = [] → after = []) :
    (text.take size ++ after).take size = text.take size ∧
      (text.take size ++ after).drop size = after := by
  cases Nat.le_total size text.length with
  | inl short =>
    have length := List.length_take_of_le short
    exact ⟨List.take_left' length, List.drop_left' length⟩
  | inr long =>
    rw [ends (List.drop_eq_nil_of_le long), List.append_nil, List.take_of_length_le long]
    exact ⟨List.take_of_length_le long, List.drop_eq_nil_of_le long⟩

/-- The scanner goes over what was exposed as over the text, and leaves it as it is. -/
theorem exposedIn_exposedIn (isStem : IsStem stem) (region : Region) (outer : List Region)
    (text : List Char) :
    exposedIn stem count region outer (exposedIn stem count region outer text) =
      exposedIn stem count region outer text := by
  induction region, outer, text using exposure_induction count isStem with
  | nil region outer => rfl
  | hole taken ih => rw [exposedIn_hole isStem taken, exposedIn_substitution isStem, ih]
  | @pass region outer c rest next outerNext more noHole step ih =>
    have ends : rest.drop more = [] →
        exposedIn stem count next outerNext (rest.drop more) = [] := by
      intro ended
      rw [ended, exposedIn_nil]
    have noHoleAgain : region = .template → take? stem count
        (c :: (rest.take more ++ exposedIn stem count next outerNext (rest.drop more))) =
          none := by
      rintro rfl
      cases isName : isNameChar c with
      | false => exact take?_of_not_name isStem isName _
      | true =>
        cases (step none).symm.trans
          (stays_of_isNameChar (fun _ same => by cases same) isName rest outer none)
        exact take?_exposedIn isStem (noHole rfl)
    rw [exposedIn_pass isStem noHole step,
      exposedIn_pass isStem noHoleAgain (stepRegion_exposedIn isStem step),
      (take_append_of_ends ends).1, (take_append_of_ends ends).2, ih]

/-- Exposing placeholders in a text where they are exposed changes nothing: no placeholder is left
that the scanner meets in a template literal. -/
theorem exposure_is_idempotent (code : List Char) (count : Nat) (output : List Char) :
    expose (freshStem code) count (expose (freshStem code) count output) =
        expose (freshStem code) count output ∧
      ∀ inside rest, Comes (freshStem code) count
          (.start, expose (freshStem code) count output) (inside, rest) →
        inside.region = .template → take? (freshStem code) count rest = none := by
  have isStem := freshStem_isStem code
  have again : expose (freshStem code) count (expose (freshStem code) count output) =
      expose (freshStem code) count output := exposedIn_exposedIn isStem (.code 0) [] output
  refine ⟨again, fun inside rest comes isTemplate => ?_⟩
  obtain ⟨pieces, cut⟩ :=
    exists_isCut count isStem .start (expose (freshStem code) count output)
  cases taken : take? (freshStem code) count rest with
  | none => rfl
  | some found =>
    obtain ⟨earlier, later, whole, _⟩ := cut.complete comes isTemplate taken
    have same : pieces.flatMap (Piece.exposed _) = pieces.flatMap (Piece.spelled _) :=
      cut.exposed.trans (again.trans cut.spelled.symm)
    have member : .hole found.1 ∈ pieces := by rw [whole]; simp
    have longer := length_spelled_lt (freshStem code) member
    rw [same] at longer
    exact absurd longer (Nat.lt_irrefl _)

end CssInline.Placeholder
