import CssInline.Proofs.Caret

/-! Excerpts in machine words: nothing that is computed for one leaves its range. -/

namespace CssInline

namespace Text

theorem trim_sublist (text : List Char) : (trim text).Sublist text := by
  have atEnd := (List.dropWhile_sublist isBlank (l := (trimStart text).reverse)).reverse
  rw [List.reverse_reverse] at atEnd
  exact atEnd.trans (List.dropWhile_sublist isBlank)

end Text

namespace Report

/-! Checked steps -/

/-- A number that fits into a machine word. -/
def word? (number : Nat) : Option Nat :=
  if number < UInt64.size then some number else none

def difference? (number less : Nat) : Option Nat :=
  if less ≤ number then some (number - less) else none

def slice? (text : List Char) (start stop : Nat) : Option (List Char) :=
  if start ≤ stop ∧ stop ≤ text.length then some ((text.take stop).drop start) else none

/-- The width of a text, added up character by character. -/
def checkedWidth? (start : Nat) (text : List Char) : Option Nat :=
  text.foldlM (fun width c => word? (width + if c = '\t' then tabWidth else 1)) start

def checkedWindow? (text : List Char) (column : Nat) : Option Excerpt := do
  let start := min (column - contextWidth) text.length
  let wanted ← word? (column + contextWidth)
  let stop := min wanted text.length
  let before := if 0 < start then ['.', '.', '.'] else []
  let after := if stop < text.length then ['.', '.', '.'] else []
  let part ← slice? text start stop
  let behindStart ← difference? column start
  let caret ← word? (behindStart + before.length)
  return { text := before ++ part ++ after, caret }

/-- The excerpt of a line, or nothing if a size or sum on the way to it does not fit into a machine
word, a difference is negative or a slice is not inside its text. Two differences are cut off at
zero on purpose, and here as well. -/
def checkedExcerpt? (line : List Char) (column : Nat) : Option Excerpt := do
  let expanded := expandTabs line
  let width ← checkedWidth? 0 (line.take column)
  let size ← word? (Text.byteLength expanded)
  let solidSize ← word? (Text.byteLength (Text.trimStart expanded))
  let indent ← difference? size solidSize
  let shown := Text.trim expanded
  let caret := width - indent
  let count ← word? shown.length
  if count ≤ lineLimit then return { text := shown, caret } else checkedWindow? shown caret

theorem word?_of_lt (number : Nat) (fits : number < UInt64.size) : word? number = some number :=
  if_pos fits

theorem difference?_of_le (number less : Nat) (noLess : less ≤ number) :
    difference? number less = some (number - less) :=
  if_pos noLess

theorem slice?_of_le (text : List Char) (start stop : Nat) (ordered : start ≤ stop)
    (inside : stop ≤ text.length) :
    slice? text start stop = some ((text.take stop).drop start) :=
  if_pos ⟨ordered, inside⟩

/-! Sizes -/

theorem visualWidth_cons (c : Char) (text : List Char) :
    visualWidth (c :: text) = (if c = '\t' then tabWidth else 1) + visualWidth text := by
  rw [visualWidth, expandTabs_cons, List.length_append]
  split <;> rfl

theorem visualWidth_le (text : List Char) : visualWidth text ≤ tabWidth * text.length := by
  induction text with
  | nil => exact Nat.le_refl 0
  | cons c text ih =>
    have one : (if c = '\t' then tabWidth else 1) ≤ tabWidth := by
      split <;> decide
    rw [visualWidth_cons, List.length_cons, Nat.mul_succ]
    omega

theorem byteLength_expandTabs_le (text : List Char) :
    Text.byteLength (expandTabs text) ≤ tabWidth * text.length := by
  induction text with
  | nil => exact Nat.le_refl 0
  | cons c text ih =>
    have one : Text.byteLength (if c = '\t' then List.replicate tabWidth ' ' else [c]) ≤
        tabWidth := by
      split
      · decide
      · exact Char.utf8Size_le_four c
    rw [expandTabs_cons, Text.byteLength_append, List.length_cons, Nat.mul_succ]
    omega

theorem checkedWidth?_eq (start : Nat) (text : List Char)
    (fits : start + visualWidth text < UInt64.size) :
    checkedWidth? start text = some (start + visualWidth text) := by
  -- Sums only grow, so each fits because the last one does.
  unfold checkedWidth?
  induction text generalizing start with
  | nil => rfl
  | cons c text ih =>
    rw [visualWidth_cons, ← Nat.add_assoc] at fits ⊢
    rw [List.foldlM_cons, word?_of_lt _ (Nat.lt_of_le_of_lt (Nat.le_add_right _ _) fits)]
    exact ih _ fits

theorem byteLength_sub_trimStart (text : List Char) :
    Text.byteLength (Text.trimStart text) ≤ Text.byteLength text ∧
      Text.byteLength text - Text.byteLength (Text.trimStart text) = indentBytes text := by
  have whole := Text.byteLength_append (text.takeWhile Text.isBlank) (Text.trimStart text)
  rw [Text.trimStart, List.takeWhile_append_dropWhile] at whole
  rw [Text.trimStart, indentBytes]
  omega

/-! Windows -/

/-- The column that the caret is for, counted in what is shown of the line. -/
def caretColumn (line : List Char) (column : Nat) : Nat :=
  visualWidth (line.take column) - indentBytes (expandTabs line)

def shown (line : List Char) : List Char :=
  Text.trim (expandTabs line)

/-- Dots for what is cut off. -/
def ellipsis (cut : List Char) : List Char :=
  if cut = [] then [] else ['.', '.', '.']

theorem length_dots_le (cut : Prop) [Decidable cut] :
    (if cut then ['.', '.', '.'] else []).length ≤ 3 := by
  split <;> decide

theorem checkedWindow?_eq {text : List Char} {column : Nat}
    (fits : column + contextWidth + 3 < UInt64.size) :
    checkedWindow? text column = some (window text column) := by
  have dots := length_dots_le (0 < min (column - contextWidth) text.length)
  have wanted := word?_of_lt (column + contextWidth) (by omega)
  have part := slice?_of_le text (min (column - contextWidth) text.length)
    (min (column + contextWidth) text.length) (by omega) (by omega)
  have behindStart := difference?_of_le column (min (column - contextWidth) text.length) (by omega)
  simp only [checkedWindow?, wanted, part, behindStart, Option.bind_eq_bind, Option.bind_some]
  rw [word?_of_lt _ (by omega)]
  rfl

theorem checkedExcerpt?_eq {line : List Char}
    (fits : tabWidth * line.length + contextWidth + 3 < UInt64.size) (column : Nat) :
    checkedExcerpt? line column = some (excerpt line column) := by
  have before : visualWidth (line.take column) ≤ tabWidth * line.length :=
    Nat.le_trans (visualWidth_le _) (Nat.mul_le_mul_left _ (List.length_take_le' column line))
  -- A tab is four columns and four bytes, and another character one column and at most four bytes.
  have size := byteLength_expandTabs_le line
  obtain ⟨solidSize, indent⟩ := byteLength_sub_trimStart (expandTabs line)
  have count : (Text.trim (expandTabs line)).length ≤ tabWidth * line.length :=
    Nat.le_trans (Text.trim_sublist _).length_le (visualWidth_le line)
  have width := checkedWidth?_eq 0 (line.take column) (by omega)
  have sizeFits := word?_of_lt (Text.byteLength (expandTabs line)) (by omega)
  have solidFits := word?_of_lt (Text.byteLength (Text.trimStart (expandTabs line))) (by omega)
  have countFits := word?_of_lt (Text.trim (expandTabs line)).length (by omega)
  simp only [checkedExcerpt?, excerpt, width, sizeFits, solidFits,
    difference?_of_le _ _ solidSize, countFits, indent, Nat.zero_add, Option.bind_eq_bind,
    Option.bind_some]
  split
  · rfl
  · exact checkedWindow?_eq (by omega)

theorem ellipsis_take {text : List Char} {count : Nat} (inside : count ≤ text.length) :
    ellipsis (text.take count) = if 0 < count then ['.', '.', '.'] else [] := by
  have size := List.length_take_of_le inside
  rw [ellipsis]
  split
  · rename_i empty
    rw [empty] at size
    rw [if_neg (by rw [← size]; exact Nat.lt_irrefl 0)]
  · rename_i going
    rw [if_pos (by rw [← size]; exact List.length_pos_iff.mpr going)]

theorem ellipsis_drop (text : List Char) (count : Nat) :
    ellipsis (text.drop count) = if count < text.length then ['.', '.', '.'] else [] := by
  simp only [ellipsis, List.drop_eq_nil_iff, ← Nat.not_lt, ite_not]

theorem take_append_slice_append_drop (text : List Char) (start stop : Nat)
    (ordered : start ≤ stop) :
    text.take start ++ (text.take stop).drop start ++ text.drop stop = text := by
  have opens := List.take_append_drop start (text.take stop)
  rw [List.take_take, Nat.min_eq_left ordered] at opens
  rw [opens, List.take_append_drop]

/-- A window is what is left of a text when something is cut off before and behind it. -/
theorem window_cuts (text : List Char) (column : Nat) :
    ∃ before part after, before ++ part ++ after = text ∧ part.length ≤ 2 * contextWidth ∧
      before.length ≤ column ∧
      window text column =
        { text := ellipsis before ++ part ++ ellipsis after
          caret := column - before.length + (ellipsis before).length } ∧
      (column ≤ text.length + contextWidth → (window text column).caret ≤ contextWidth + 3) := by
  have size := List.length_take_of_le (Nat.min_le_right (column - contextWidth) text.length)
  refine ⟨_, _, _, take_append_slice_append_drop text (min (column - contextWidth) text.length)
    (min (column + contextWidth) text.length) (by omega), ?_, ?_, ?_, ?_⟩
  · rw [List.length_drop, List.length_take]
    omega
  · omega
  · rw [ellipsis_take (Nat.min_le_right _ _), ellipsis_drop, size]
    rfl
  · intro near
    have dots := length_dots_le (0 < min (column - contextWidth) text.length)
    simp only [window]
    omega

/-- Whatever is computed for the excerpt of a line stays in range, wherever the column is. A line of
at most 80 characters is shown whole. Of a longer one at most 60 characters in a row are shown, with
dots on each side where something is cut off, and the caret stands near the start unless it is far
behind the line. -/
theorem excerpt_stays_in_range {line : List Char} (short : line.length < Nat.pow 2 60)
    (column : Nat) :
    checkedExcerpt? line column = some (excerpt line column) ∧
      ((shown line).length ≤ 80 →
        excerpt line column = { text := shown line, caret := caretColumn line column }) ∧
      (80 < (shown line).length →
        ∃ before part after, before ++ part ++ after = shown line ∧ part.length ≤ 60 ∧
          before.length ≤ caretColumn line column ∧
          excerpt line column =
            { text := ellipsis before ++ part ++ ellipsis after
              caret := caretColumn line column - before.length + (ellipsis before).length } ∧
          (caretColumn line column ≤ (shown line).length + 30 →
            (excerpt line column).caret ≤ 33)) := by
  have bound : tabWidth * Nat.pow 2 60 + contextWidth + 3 < UInt64.size := by decide
  have longest : tabWidth * line.length ≤ tabWidth * Nat.pow 2 60 :=
    Nat.mul_le_mul_left _ (Nat.le_of_lt short)
  refine ⟨checkedExcerpt?_eq ?_ column, fun whole => if_pos whole, fun long => ?_⟩
  · exact Nat.lt_of_le_of_lt (Nat.add_le_add_right (Nat.add_le_add_right longest _) _) bound
  · have windowed : excerpt line column = window (shown line) (caretColumn line column) :=
      if_neg (Nat.not_le_of_lt long)
    rw [windowed]
    exact window_cuts (shown line) (caretColumn line column)

/-- An indentation of a tab and a blank of two bytes, and then more than is shown. -/
def longLine : List Char :=
  '\t' :: '\u00a0' :: (List.replicate 50 'a' ++ 'X' :: List.replicate 50 'b')

theorem excerpt_of_long_line :
    longLine.length < Nat.pow 2 60 ∧ 80 < (shown longLine).length ∧
      checkedExcerpt? longLine 52 = some (excerpt longLine 52) ∧
      (excerpt longLine 52).caret ≤ 33 ∧
      ∃ before part after, before ++ part ++ after = shown longLine ∧ part.length ≤ 60 ∧
        (excerpt longLine 52).text = ellipsis before ++ part ++ ellipsis after := by
  have short : longLine.length < Nat.pow 2 60 := by decide
  have long : 80 < (shown longLine).length := by decide
  obtain ⟨checked, _, cut⟩ := excerpt_stays_in_range short 52
  obtain ⟨before, part, after, whole, width, _, same, near⟩ := cut long
  exact ⟨short, long, checked, near (by decide), before, part, after, whole, width,
    congrArg Excerpt.text same⟩

end Report

end CssInline
