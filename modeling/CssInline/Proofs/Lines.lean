import CssInline.Position

/-! Lines of a text, and the line that a text starts with. -/

namespace CssInline.Text

theorem lines_ne_nil {text : List Char} (going : text ≠ []) : lines text ≠ [] := by
  induction text using lines.induct with
  | case1 => exact absurd rfl going
  | case2 rest => simp [lines]
  | case3 c rest noFeed isReturn ih =>
    rw [lines, if_neg noFeed, if_pos isReturn]
    apply ih
    rintro rfl
    cases isReturn.2
  | case4 c rest noFeed noReturn empty ih =>
    rw [lines, if_neg noFeed, if_neg noReturn, empty]
    exact List.cons_ne_nil _ _
  | case5 c rest noFeed noReturn line more same ih =>
    rw [lines, if_neg noFeed, if_neg noReturn, same]
    exact List.cons_ne_nil _ _

/-- A line feed ends the lines before it. -/
theorem lines_append_feed (before rest : List Char) :
    lines (before ++ '\n' :: rest) = lines (before ++ ['\n']) ++ lines rest := by
  induction before with
  | nil => rfl
  | cons c before ih =>
    have starts : (before ++ '\n' :: rest).head? = (before ++ ['\n']).head? := by
      cases before <;> rfl
    rw [List.cons_append, List.cons_append, lines, lines, starts, ih]
    split
    · rfl
    · split
      · rfl
      · cases ends : lines (before ++ ['\n']) with
        | nil => exact absurd ends (lines_ne_nil (by simp))
        | cons line more => rfl

theorem mem_of_mem_lines {text line : List Char} (isLine : line ∈ lines text) {c : Char}
    (member : c ∈ line) : c ∈ text := by
  induction text using lines.induct generalizing line with
  | case1 => cases isLine
  | case2 rest ih =>
    rw [lines, if_pos rfl] at isLine
    rcases List.mem_cons.mp isLine with rfl | later
    · cases member
    · exact List.mem_cons_of_mem _ (ih later member)
  | case3 d rest noFeed isReturn ih =>
    rw [lines, if_neg noFeed, if_pos isReturn] at isLine
    exact List.mem_cons_of_mem _ (ih isLine member)
  | case4 d rest noFeed noReturn empty ih =>
    rw [lines, if_neg noFeed, if_neg noReturn, empty] at isLine
    rw [List.mem_singleton.mp isLine] at member
    rw [List.mem_singleton.mp member]
    exact List.mem_cons_self
  | case5 d rest noFeed noReturn first more same ih =>
    rw [lines, if_neg noFeed, if_neg noReturn, same] at isLine
    rw [same] at ih
    rcases List.mem_cons.mp isLine with rfl | later
    · rcases List.mem_cons.mp member with rfl | inside
      · exact List.mem_cons_self
      · exact List.mem_cons_of_mem _ (ih List.mem_cons_self inside)
    · exact List.mem_cons_of_mem _ (ih (List.mem_cons_of_mem _ later) member)

/-- What stands on the first line keeps its place, up to a character that cannot belong to the end
of a line. -/
theorem lines_of_first {before : List Char} (unbroken : '\n' ∉ before) {c : Char}
    (noFeed : c ≠ '\n') (noReturn : c ≠ '\r') (rest : List Char) :
    ∃ after more, lines (before ++ c :: rest) = (before ++ c :: after) :: more := by
  induction before with
  | nil =>
    rw [List.nil_append, lines, if_neg noFeed, if_neg fun ends => noReturn ends.1]
    cases lines rest with
    | nil => exact ⟨[], [], rfl⟩
    | cons line more => exact ⟨line, more, rfl⟩
  | cons d before ih =>
    obtain ⟨other, others⟩ := not_or.mp (mt List.mem_cons.mpr unbroken)
    obtain ⟨after, more, split⟩ := ih others
    have stays : ¬ (d = '\r' ∧ (before ++ c :: rest).head? = some '\n') := by
      rintro ⟨_, feed⟩
      cases before with
      | nil => exact noFeed (Option.some.inj feed)
      | cons e before => exact others (by rw [← Option.some.inj feed]; exact List.mem_cons_self)
    rw [List.cons_append, lines, if_neg (Ne.symm other), if_neg stays, split]
    exact ⟨after, more, rfl⟩

end CssInline.Text
