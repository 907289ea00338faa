import CssInline.Diagnostic.Report

/-! Under which character of a source line the caret of a report stands. -/

namespace CssInline

namespace Text

theorem length_le_byteLength (text : List Char) : text.length ≤ byteLength text := by
  induction text with
  | nil => exact Nat.le_refl 0
  | cons c text ih =>
    have := Char.utf8Size_pos c
    rw [byteLength, List.length_cons]
    omega

/-- A text is as long in bytes as in characters just if every character is one byte long. -/
theorem byteLength_eq_length {text : List Char} :
    byteLength text = text.length ↔ ∀ c ∈ text, c.utf8Size = 1 := by
  induction text with
  | nil => exact ⟨fun _ _ => nofun, fun _ => rfl⟩
  | cons c text ih =>
    have := Char.utf8Size_pos c
    have := length_le_byteLength text
    rw [byteLength, List.length_cons, List.forall_mem_cons, ← ih]
    omega

end Text

namespace Report

/-! Characters with the columns that they are from -/

/-- The characters of a text that starts in the column `start`, each with its column. All spaces of
a tab are from the column of the tab. -/
def expandMarked : Nat → List Char → List (Char × Nat)
  | _, [] => []
  | start, c :: text =>
    (if c = '\t' then List.replicate tabWidth (' ', start) else [(c, start)]) ++
      expandMarked (start + 1) text

def trimMarked (text : List (Char × Nat)) : List (Char × Nat) :=
  ((text.dropWhile fun entry => Text.isBlank entry.1).reverse.dropWhile
    fun entry => Text.isBlank entry.1).reverse

/-- Characters of the line in an excerpt. -/
def fromLine (text : List (Char × Nat)) : List (Char × Option Nat) :=
  text.map fun entry => (entry.1, some entry.2)

/-- The dots in an excerpt are from no column. -/
def dots : List (Char × Option Nat) :=
  List.replicate 3 ('.', none)

def windowMarked (text : List (Char × Nat)) (column : Nat) : List (Char × Option Nat) :=
  let start := min (column - contextWidth) text.length
  let stop := min (column + contextWidth) text.length
  (if 0 < start then dots else []) ++ fromLine ((text.take stop).drop start) ++
    (if stop < text.length then dots else [])

/-- What is shown of a line, each character with the column of the line that it is a copy from. -/
def marked (line : List Char) (column : Nat) : List (Char × Option Nat) :=
  let shown := trimMarked (expandMarked 0 line)
  let caret := visualWidth (line.take column) - indentBytes (expandTabs line)
  if shown.length ≤ lineLimit then fromLine shown else windowMarked shown caret

theorem expandTabs_cons (c : Char) (text : List Char) :
    expandTabs (c :: text) =
      (if c = '\t' then List.replicate tabWidth ' ' else [c]) ++ expandTabs text := rfl

theorem map_fst_expandMarked (start : Nat) (line : List Char) :
    (expandMarked start line).map Prod.fst = expandTabs line := by
  induction line generalizing start with
  | nil => rfl
  | cons c line ih =>
    rw [expandMarked, List.map_append, ih, expandTabs_cons]
    split <;> rfl

theorem exists_trimMarked (text : List (Char × Nat)) :
    ∃ after, (text.takeWhile fun entry => Text.isBlank entry.1) ++ (trimMarked text ++ after) =
      text ∧ ∀ entry ∈ after, Text.isBlank entry.1 = true := by
  refine ⟨((text.dropWhile fun entry => Text.isBlank entry.1).reverse.takeWhile
    fun entry => Text.isBlank entry.1).reverse, ?_, fun entry member => ?_⟩
  · rw [trimMarked, ← List.reverse_append, List.takeWhile_append_dropWhile, List.reverse_reverse,
      List.takeWhile_append_dropWhile]
  · exact List.all_eq_true.mp List.all_takeWhile entry (List.mem_reverse.mp member)

theorem map_fst_trimMarked (text : List (Char × Nat)) :
    (trimMarked text).map Prod.fst = Text.trim (text.map Prod.fst) := by
  rw [trimMarked, Text.trim, Text.trimEnd, Text.trimStart, List.dropWhile_map, ← List.map_reverse,
    List.dropWhile_map, ← List.map_reverse]
  rfl

theorem map_fst_fromLine (text : List (Char × Nat)) :
    (fromLine text).map Prod.fst = text.map Prod.fst := by
  rw [fromLine, List.map_map]
  rfl

theorem map_fst_windowMarked (text : List (Char × Nat)) (column : Nat) :
    (windowMarked text column).map Prod.fst = (window (text.map Prod.fst) column).text := by
  simp only [windowMarked, window, List.map_append, map_fst_fromLine, List.length_map,
    List.map_drop, List.map_take, apply_ite (List.map Prod.fst)]
  rfl

/-- Without the columns, this is what a report shows. -/
theorem map_fst_marked (line : List Char) (column : Nat) :
    (marked line column).map Prod.fst = (excerpt line column).text := by
  have shown : (trimMarked (expandMarked 0 line)).map Prod.fst = Text.trim (expandTabs line) := by
    rw [map_fst_trimMarked, map_fst_expandMarked]
  have size : (trimMarked (expandMarked 0 line)).length = (Text.trim (expandTabs line)).length := by
    rw [← shown, List.length_map]
  simp only [marked, excerpt, size]
  split
  · rw [map_fst_fromLine, shown]
  · rw [map_fst_windowMarked, shown]

/-! The place of a column -/

theorem length_expandMarked (start : Nat) (line : List Char) :
    (expandMarked start line).length = visualWidth line := by
  rw [visualWidth, ← map_fst_expandMarked start, List.length_map]

theorem expandMarked_append (start : Nat) (before after : List Char) :
    expandMarked start (before ++ after) =
      expandMarked start before ++ expandMarked (start + before.length) after := by
  induction before generalizing start with
  | nil => rfl
  | cons c before ih =>
    rw [List.cons_append, expandMarked, expandMarked, ih, List.append_assoc, List.length_cons,
      Nat.add_assoc, Nat.add_comm 1]

theorem range_of_mem_expandMarked {start : Nat} {text : List Char} {entry : Char × Nat}
    (member : entry ∈ expandMarked start text) :
    start ≤ entry.2 ∧ entry.2 < start + text.length := by
  induction text generalizing start with
  | nil => cases member
  | cons c text ih =>
    rw [List.length_cons]
    rw [expandMarked, List.mem_append] at member
    cases member with
    | inl here =>
      have same : entry.2 = start := by
        split at here
        · rw [(List.mem_replicate.mp here).2]
        · rw [List.mem_singleton.mp here]
      omega
    | inr later =>
      have := ih later
      omega

/-- The character of a column, unless it is a tab, stands at one place of the expanded text only. -/
theorem getElem?_expandMarked {text : List Char} {column : Nat} {c : Char}
    (reported : text[column]? = some c) (noTab : c ≠ '\t') (place : Nat) :
    (expandMarked 0 text)[place]? = some (c, column) ↔
      place = visualWidth (text.take column) := by
  obtain ⟨inside, here⟩ := List.getElem?_eq_some_iff.mp reported
  have size : (text.take column).length = column := by
    rw [List.length_take]
    omega
  have split : expandMarked 0 text = expandMarked 0 (text.take column) ++
      (c, column) :: expandMarked (column + 1) (text.drop (column + 1)) := by
    calc expandMarked 0 text
        = expandMarked 0 (text.take column ++ text.drop column) := by rw [List.take_append_drop]
      _ = expandMarked 0 (text.take column) ++ expandMarked column (text.drop column) := by
          rw [expandMarked_append, size, Nat.zero_add]
      _ = _ := by rw [List.drop_eq_getElem_cons inside, here, expandMarked, if_neg noTab]; rfl
  rw [split, ← length_expandMarked 0]
  constructor
  · intro found
    rcases Nat.lt_trichotomy place (expandMarked 0 (text.take column)).length with
      before | same | after
    · rw [List.getElem?_append_left before] at found
      have := (range_of_mem_expandMarked (List.mem_of_getElem? found)).2
      omega
    · exact same
    · rw [List.getElem?_append_right (Nat.le_of_lt after)] at found
      obtain ⟨rest, more⟩ := Nat.exists_eq_succ_of_ne_zero (Nat.sub_ne_zero_of_lt after)
      rw [more, List.getElem?_cons_succ] at found
      have := (range_of_mem_expandMarked (List.mem_of_getElem? found)).1
      omega
  · rintro rfl
    rw [List.getElem?_append_right (Nat.le_refl _), Nat.sub_self, List.getElem?_cons_zero]

/-! Indentation -/

/-- The blanks that open a line. -/
def indentation (line : List Char) : List Char :=
  line.takeWhile Text.isBlank

theorem takeWhile_expandTabs (line : List Char) :
    (expandTabs line).takeWhile Text.isBlank = expandTabs (indentation line) := by
  induction line with
  | nil => rfl
  | cons c line ih =>
    rw [indentation, List.takeWhile_cons]
    cases blank : Text.isBlank c with
    | true =>
      have blanks : ∀ d ∈ (if c = '\t' then List.replicate tabWidth ' ' else [c]),
          Text.isBlank d = true := by
        intro d member
        split at member
        · rw [(List.mem_replicate.mp member).2]
          decide
        · rwa [List.mem_singleton.mp member]
      rw [if_pos rfl, expandTabs_cons, expandTabs_cons, List.takeWhile_append_of_pos blanks, ih,
        indentation]
    | false =>
      have noTab : c ≠ '\t' := by
        rintro rfl
        exact absurd blank (by decide)
      rw [if_neg Bool.false_ne_true, expandTabs_cons, if_neg noTab, List.singleton_append,
        List.takeWhile_cons, blank]
      rfl

theorem length_takeWhile_expandMarked (line : List Char) :
    ((expandMarked 0 line).takeWhile fun entry => Text.isBlank entry.1).length =
      visualWidth (indentation line) := by
  rw [visualWidth, ← takeWhile_expandTabs, ← map_fst_expandMarked 0, List.takeWhile_map,
    List.length_map]
  rfl

/-- A tab is as wide in bytes as in characters, and so are the spaces in its place. -/
theorem indentBytes_eq_visualWidth {line : List Char} :
    indentBytes (expandTabs line) = visualWidth (indentation line) ↔
      ∀ c ∈ indentation line, c.utf8Size = 1 := by
  rw [indentBytes, takeWhile_expandTabs, visualWidth, Text.byteLength_eq_length]
  constructor
  · intro narrow c member
    by_cases tab : c = '\t'
    · rw [tab]
      decide
    · refine narrow c (List.mem_flatMap.mpr ⟨c, member, ?_⟩)
      rw [if_neg tab]
      exact List.mem_singleton_self c
  · intro narrow d member
    obtain ⟨c, inside, here⟩ := List.mem_flatMap.mp member
    split at here
    · rw [(List.mem_replicate.mp here).2]
      decide
    · rw [List.mem_singleton.mp here]
      exact narrow c inside

theorem visualWidth_le_indentBytes (line : List Char) :
    visualWidth (indentation line) ≤ indentBytes (expandTabs line) := by
  rw [indentBytes, takeWhile_expandTabs]
  exact Text.length_le_byteLength _

theorem visualWidth_append (before after : List Char) :
    visualWidth (before ++ after) = visualWidth before + visualWidth after := by
  rw [visualWidth, expandTabs, List.flatMap_append, List.length_append]
  rfl

theorem length_le_visualWidth (text : List Char) : text.length ≤ visualWidth text := by
  induction text with
  | nil => exact Nat.le_refl 0
  | cons c text ih =>
    have one : 1 ≤ (if c = '\t' then List.replicate tabWidth ' ' else [c]).length := by
      split
      · decide
      · exact Nat.le_refl 1
    rw [visualWidth] at ih ⊢
    rw [expandTabs_cons, List.length_append, List.length_cons]
    omega

/-- What is reported stands behind the indentation. -/
theorem exists_behind_indentation {text : List Char} {column : Nat} {c : Char}
    (reported : text[column]? = some c) (solid : Text.isBlank c = false) :
    ∃ behind, text.take column = indentation text ++ behind := by
  have opens : indentation text <+: text := List.takeWhile_prefix _
  have outside : (indentation text).length ≤ column := by
    refine Nat.le_of_not_lt fun inside => ?_
    obtain ⟨rest, same⟩ := opens
    rw [← same, List.getElem?_append_left inside] at reported
    have blank := List.all_eq_true.mp List.all_takeWhile c (List.mem_of_getElem? reported)
    rw [solid] at blank
    cases blank
  obtain ⟨behind, same⟩ := List.prefix_of_prefix_length_le opens (List.take_prefix column text) (by
    obtain ⟨inside, _⟩ := List.getElem?_eq_some_iff.mp reported
    rw [List.length_take]
    omega)
  exact ⟨behind, same.symm⟩

/-- Where the character of a column stands in what is left of a text without the blanks around
it. -/
theorem getElem?_trimMarked {text : List Char} {column : Nat} {c : Char}
    (reported : text[column]? = some c) (solid : Text.isBlank c = false) (place : Nat) :
    (trimMarked (expandMarked 0 text))[place]? = some (c, column) ↔
      place = visualWidth (text.take column) - visualWidth (indentation text) := by
  have noTab : c ≠ '\t' := by
    rintro rfl
    exact absurd solid (by decide)
  have whole := getElem?_expandMarked reported noTab
  obtain ⟨after, split, blanks⟩ := exists_trimMarked (expandMarked 0 text)
  obtain ⟨behind, begins⟩ := exists_behind_indentation reported solid
  have width := visualWidth_append (indentation text) behind
  rw [← begins] at width
  have moved (place : Nat) : (expandMarked 0 text)[visualWidth (indentation text) + place]? =
      (trimMarked (expandMarked 0 text) ++ after)[place]? := by
    have size := length_takeWhile_expandMarked text
    calc (expandMarked 0 text)[visualWidth (indentation text) + place]?
        = ((expandMarked 0 text).takeWhile _ ++ (trimMarked (expandMarked 0 text) ++ after))[
            ((expandMarked 0 text).takeWhile _).length + place]? := by rw [split, size]
      _ = (trimMarked (expandMarked 0 text) ++ after)[place]? := by
          rw [List.getElem?_append_right (Nat.le_add_right _ _), Nat.add_sub_cancel_left]
  constructor
  · intro found
    have inside := (List.getElem?_eq_some_iff.mp found).1
    have same := (whole (visualWidth (indentation text) + place)).mp (by
      rw [moved, List.getElem?_append_left inside, found])
    omega
  · intro same
    have found := (whole (visualWidth (indentation text) + place)).mpr (by omega)
    rw [moved] at found
    by_cases inside : place < (trimMarked (expandMarked 0 text)).length
    · rwa [List.getElem?_append_left inside] at found
    · rw [List.getElem?_append_right (Nat.le_of_not_lt inside)] at found
      have blank := blanks _ (List.mem_of_getElem? found)
      rw [solid] at blank
      cases blank

/-! The caret -/

theorem getElem?_windowMarked {text : List (Char × Nat)} {column : Nat}
    (inside : column < text.length) :
    (windowMarked text column)[(window (text.map Prod.fst) column).caret]? =
      (text[column]?).map fun entry => (entry.1, some entry.2) := by
  have before : (if 0 < min (column - contextWidth) text.length then dots else []).length =
      (if 0 < min (column - contextWidth) text.length then ['.', '.', '.'] else []).length := by
    split <;> rfl
  have positive : 0 < contextWidth := by decide
  simp only [windowMarked, window, List.length_map, ← before]
  rw [List.append_assoc, List.getElem?_append_right (Nat.le_add_left _ _), Nat.add_sub_cancel,
    List.getElem?_append_left, fromLine, List.getElem?_map, List.getElem?_drop, List.getElem?_take,
    if_pos]
  · rw [Nat.add_sub_cancel' (by omega)]
  · omega
  · rw [fromLine, List.length_map, List.length_drop, List.length_take]
    omega

/-- The caret of an excerpt stands under the character it is about just if the indentation is as
wide in bytes as in characters, or there is nothing before the character but the indentation. -/
theorem getElem?_marked_caret {text : List Char} {column : Nat} {c : Char}
    (reported : text[column]? = some c) (solid : Text.isBlank c = false) :
    (marked text column)[(excerpt text column).caret]? = some (c, some column) ↔
      (∀ blank ∈ indentation text, blank.utf8Size = 1) ∨ column = (indentation text).length := by
  have place := getElem?_trimMarked reported solid
  have narrower := visualWidth_le_indentBytes text
  obtain ⟨inside, _⟩ := List.getElem?_eq_some_iff.mp
    ((place (visualWidth (text.take column) - visualWidth (indentation text))).mpr rfl)
  obtain ⟨behind, begins⟩ := exists_behind_indentation reported solid
  have width := visualWidth_append (indentation text) behind
  have length := congrArg List.length begins
  have noLonger := length_le_visualWidth behind
  have onLine := (List.getElem?_eq_some_iff.mp reported).1
  rw [← begins] at width
  rw [List.length_append, List.length_take] at length
  have atCaret : (marked text column)[(excerpt text column).caret]? =
      ((trimMarked (expandMarked 0 text))[visualWidth (text.take column) -
        indentBytes (expandTabs text)]?).map fun entry => (entry.1, some entry.2) := by
    have shown := map_fst_trimMarked (expandMarked 0 text)
    rw [map_fst_expandMarked] at shown
    simp only [marked, excerpt, ← shown, List.length_map]
    split
    · rw [fromLine, List.getElem?_map]
    · exact getElem?_windowMarked (by omega)
  have isCopy (entry : Option (Char × Nat)) :
      (entry.map fun entry => (entry.1, some entry.2)) = some (c, some column) ↔
        entry = some (c, column) := by
    rcases entry with _ | ⟨d, i⟩ <;> simp
  rw [atCaret, isCopy, place, ← indentBytes_eq_visualWidth]
  have empty : behind = [] → visualWidth behind = 0 := by
    rintro rfl
    rfl
  rw [← List.length_eq_zero_iff] at empty
  omega

/-! Reports -/

/-- The row of the excerpt and the row of the caret. -/
theorem render_of_line {report : Report} {line column : Nat} {text : List Char}
    (placed : report.position = some ⟨line + 1, column⟩)
    (inside : (Text.lines report.source.toList)[line]? = some text) :
    report.render = "error: " ++ report.message ++ "\n" ++
      " --> " ++ place report.filename report.position ++ "\n" ++
      (String.ofList (Text.decimal (line + 1)) ++ " | " ++
          String.ofList (excerpt text column).text ++ "\n" ++
        spaces (Text.decimal (line + 1)).length ++ " | " ++
          spaces (excerpt text column).caret ++ "^\n") ++
      helpLine report.help := by
  have found : sourceLine? report.source ⟨line + 1, column⟩ = some text := by
    rw [sourceLine?, if_neg (Nat.succ_ne_zero line)]
    exact inside
  rw [render, placed, Option.elim_some, excerptLines, found]
  simp

/-- A report about a character of its source shows a row with what there is of the line and a row
with the caret. The caret stands as far from the start of its row as the character itself just if
all of the indentation takes one byte a blank, or nothing but the indentation is before the
character. -/
theorem caret_stands_under_column_iff {report : Report} {line column : Nat} {text : List Char}
    {c : Char} (placed : report.position = some ⟨line + 1, column⟩)
    (inside : (Text.lines report.source.toList)[line]? = some text)
    (reported : text[column]? = some c) (solid : Text.isBlank c = false) :
    report.render = "error: " ++ report.message ++ "\n" ++
        " --> " ++ place report.filename report.position ++ "\n" ++
        (String.ofList (Text.decimal (line + 1)) ++ " | " ++
            String.ofList ((marked text column).map Prod.fst) ++ "\n" ++
          spaces (Text.decimal (line + 1)).length ++ " | " ++
            spaces (excerpt text column).caret ++ "^\n") ++
        helpLine report.help ∧
      ((marked text column)[(excerpt text column).caret]? = some (c, some column) ↔
        (∀ blank ∈ indentation text, blank.utf8Size = 1) ∨
          column = (indentation text).length) := by
  rw [map_fst_marked]
  exact ⟨render_of_line placed inside, getElem?_marked_caret reported solid⟩

/-- A blank of two bytes and two letters, with the second letter reported. -/
def behindWideBlank : Report where
  message := "bad"
  source := "\u00a0ab"
  position := some ⟨1, 2⟩

/-- The caret stands one character too far to the left. -/
theorem caret_misses_column_behind_wide_blank :
    (Text.lines behindWideBlank.source.toList)[0]? = some ['\u00a0', 'a', 'b'] ∧
      behindWideBlank.render = "error: bad\n --> input:1:2\n1 | ab\n  | ^\n" ∧
      marked ['\u00a0', 'a', 'b'] 2 = [('a', some 1), ('b', some 2)] ∧
      (marked ['\u00a0', 'a', 'b'] 2)[(excerpt ['\u00a0', 'a', 'b'] 2).caret]? ≠
        some ('b', some 2) := by
  have inside : (Text.lines behindWideBlank.source.toList)[0]? = some ['\u00a0', 'a', 'b'] := by
    decide +kernel
  have placed : behindWideBlank.position = some ⟨0 + 1, 2⟩ := rfl
  have reported : ['\u00a0', 'a', 'b'][2]? = some 'b' := rfl
  obtain ⟨rendered, stands⟩ :=
    caret_stands_under_column_iff placed inside reported (by decide +kernel)
  refine ⟨inside, ?_, by decide +kernel, ?_⟩
  · rw [rendered]
    decide +kernel
  · rw [ne_eq, stands]
    have indented : indentation ['\u00a0', 'a', 'b'] = ['\u00a0'] := by decide +kernel
    rw [indented]
    rintro (narrow | first)
    · exact absurd (narrow '\u00a0' (List.mem_singleton_self _)) (by decide)
    · cases first

end Report

end CssInline
