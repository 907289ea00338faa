import CssInline.Proofs.Lines
import Mathlib.Data.List.TakeWhile

/-! The place of a failure in a template, read off the blanks that open its text. -/

namespace CssInline

namespace Text

/-! The blanks that open a text -/

/-- The longest blank beginning of a text. -/
structure IsOpening (opening text : List Char) : Prop where
  starts : opening <+: text
  blank : ∀ c ∈ opening, isBlank c = true
  longest : ∀ other, other <+: text → (∀ c ∈ other, isBlank c = true) → other <+: opening

theorem isOpening_takeWhile (text : List Char) : IsOpening (text.takeWhile isBlank) text where
  starts := List.takeWhile_prefix _
  blank := List.all_eq_true.mp List.all_takeWhile
  longest := by
    rintro other ⟨rest, rfl⟩ blank
    rw [List.takeWhile_append_of_pos blank]
    exact List.prefix_append _ _

theorem IsOpening.eq_takeWhile {opening text : List Char} (isOpening : IsOpening opening text) :
    opening = text.takeWhile isBlank := by
  have shorter := (isOpening_takeWhile text).longest _ isOpening.starts isOpening.blank
  have longer := isOpening.longest _ (List.takeWhile_prefix _) (isOpening_takeWhile text).blank
  exact shorter.eq_of_length_le longer.length_le

/-- Behind the opening there is nothing or a character that is not blank. -/
theorem IsOpening.ends {opening text : List Char} (isOpening : IsOpening opening text) :
    opening = text ∨ ∃ c rest, text = opening ++ c :: rest ∧ isBlank c = false := by
  obtain ⟨rest, split⟩ := isOpening.starts
  cases rest with
  | nil => exact .inl (by rw [← split, List.append_nil])
  | cons c rest =>
    refine .inr ⟨c, rest, split.symm, ?_⟩
    have stops := List.head?_dropWhile_not isBlank text
    have same : opening ++ text.dropWhile isBlank = opening ++ c :: rest := by
      rw [split, isOpening.eq_takeWhile, List.takeWhile_append_dropWhile]
    have behind := List.append_cancel_left same
    rw [behind] at stops
    simpa using stops

/-- What follows the last line feed, or all of a text without one. -/
def afterLastFeed : List Char → List Char
  | [] => []
  | c :: text => if '\n' ∈ c :: text then afterLastFeed text else c :: text

theorem afterLastFeed_of_not_mem {text : List Char} (unbroken : '\n' ∉ text) :
    afterLastFeed text = text := by
  cases text with
  | nil => rfl
  | cons c text => rw [afterLastFeed, if_neg unbroken]

theorem feed_not_mem_afterLastFeed (text : List Char) : '\n' ∉ afterLastFeed text := by
  induction text with
  | nil => exact List.not_mem_nil
  | cons c text ih =>
    rw [afterLastFeed]
    split
    · exact ih
    · assumption

theorem exists_before_afterLastFeed {text : List Char} (broken : '\n' ∈ text) :
    ∃ before, text = before ++ '\n' :: afterLastFeed text := by
  induction text with
  | nil => cases broken
  | cons c text ih =>
    rw [afterLastFeed, if_pos broken]
    by_cases later : '\n' ∈ text
    · obtain ⟨before, split⟩ := ih later
      exact ⟨c :: before, congrArg (c :: ·) split⟩
    · rcases List.mem_cons.mp broken with rfl | inside
      · exact ⟨[], by rw [afterLastFeed_of_not_mem later]; rfl⟩
      · exact absurd inside later

/-- The first line feed of a text belongs to the opening just if all before it is blank. -/
theorem IsOpening.feed_mem_iff {opening text : List Char} (isOpening : IsOpening opening text) :
    '\n' ∈ opening ↔ ∃ before after, text = before ++ '\n' :: after ∧ '\n' ∉ before ∧
      ∀ c ∈ before, isBlank c = true := by
  constructor
  · intro broken
    obtain ⟨before, after, split, first⟩ := List.eq_append_cons_of_mem broken
    obtain ⟨rest, whole⟩ := isOpening.starts
    refine ⟨before, after ++ rest, ?_, first, fun c member => isOpening.blank c ?_⟩
    · rw [← whole, split, List.append_assoc, List.cons_append]
    · rw [split]
      exact List.mem_append_left _ member
  · rintro ⟨before, after, split, _, blank⟩
    have inside := isOpening.longest (before ++ ['\n']) ⟨after, by rw [split]; simp⟩ (by
      intro c member
      rcases List.mem_append.mp member with earlier | here
      · exact blank c earlier
      · rw [List.mem_singleton.mp here]
        decide)
    exact inside.subset (List.mem_append_right _ (List.mem_singleton_self _))

end Text

/-! The first line that is not blank -/

theorem Text.isEmpty_trim {line : List Char} :
    (Text.trim line).isEmpty = true ↔ ∀ c ∈ line, Text.isBlank c = true := by
  rw [List.isEmpty_iff, Text.trim, Text.trimEnd, List.reverse_eq_nil_iff, List.dropWhile_eq_nil_iff,
    Text.trimStart]
  constructor
  · intro blank c member
    rw [← List.takeWhile_append_dropWhile (p := Text.isBlank) (l := line)] at member
    rcases List.mem_append.mp member with before | behind
    · exact List.all_eq_true.mp List.all_takeWhile c before
    · exact blank c (List.mem_reverse.mpr behind)
  · intro blank c member
    exact blank c ((List.dropWhile_suffix _).subset (List.mem_reverse.mp member))

theorem firstIndent_of_lines {text rest : List Char} {before : List (List Char)}
    (blank : ∀ line ∈ before, ∀ c ∈ line, Text.isBlank c = true)
    (split : Text.lines text = before ++ Text.lines rest) :
    firstIndent text = firstIndent rest := by
  have skipped : before.find? (fun line => !(Text.trim line).isEmpty) = none := by
    rw [List.find?_eq_none]
    intro line member
    rw [Text.isEmpty_trim.mpr (blank line member)]
    decide
  rw [firstIndent, firstIndent, split, List.find?_append, skipped, Option.none_or]

/-- Blank lines do not count. -/
theorem firstIndent_append_feed {before : List Char}
    (blank : ∀ c ∈ before, Text.isBlank c = true) (rest : List Char) :
    firstIndent (before ++ '\n' :: rest) = firstIndent rest := by
  refine firstIndent_of_lines (fun line isLine c member => ?_)
    (Text.lines_append_feed before rest)
  rcases List.mem_append.mp (Text.mem_of_mem_lines isLine member) with inside | feed
  · exact blank c inside
  · rw [List.mem_singleton.mp feed]
    decide

theorem firstIndent_of_blank {text : List Char} (blank : ∀ c ∈ text, Text.isBlank c = true) :
    firstIndent text = 0 := by
  have skipped : Text.lines text = Text.lines text ++ Text.lines [] := (List.append_nil _).symm
  exact firstIndent_of_lines
    (fun _ isLine c member => blank c (Text.mem_of_mem_lines isLine member)) skipped

theorem firstIndent_of_first {before : List Char} (unbroken : '\n' ∉ before)
    (blank : ∀ c ∈ before, Text.isBlank c = true) {c : Char} (solid : Text.isBlank c = false)
    (rest : List Char) : firstIndent (before ++ c :: rest) = before.length := by
  have noFeed : c ≠ '\n' := by
    rintro rfl
    cases solid
  have noReturn : c ≠ '\r' := by
    rintro rfl
    cases solid
  obtain ⟨after, more, split⟩ := Text.lines_of_first unbroken noFeed noReturn rest
  have shown : (Text.trim (before ++ c :: after)).isEmpty = false := by
    rw [← Bool.not_eq_true, Text.isEmpty_trim]
    intro all
    rw [all c (List.mem_append_right _ List.mem_cons_self)] at solid
    cases solid
  have indent : (before ++ c :: after).takeWhile Text.isBlank = before := by
    rw [List.takeWhile_append_of_pos blank, List.takeWhile_cons, solid, if_neg Bool.false_ne_true,
      List.append_nil]
  rw [firstIndent, split, List.find?_cons, shown]
  exact congrArg List.length indent

/-- The first character that is not blank stands as far in as there are blanks between it and the
last line feed before it. -/
theorem firstIndent_of_opening {opening text : List Char}
    (isOpening : Text.IsOpening opening text) :
    firstIndent text = if opening = text then 0 else (Text.afterLastFeed opening).length := by
  rcases isOpening.ends with same | ⟨c, rest, split, solid⟩
  · rw [if_pos same]
    exact firstIndent_of_blank (same ▸ isOpening.blank)
  · have going : opening ≠ text := by
      intro same
      rw [split] at same
      exact absurd (List.append_cancel_left (same.symm.trans (List.append_nil _).symm))
        (List.cons_ne_nil _ _)
    rw [if_neg going]
    -- Up to its last line feed the opening is made of blank lines.
    have unbroken := Text.feed_not_mem_afterLastFeed opening
    by_cases broken : '\n' ∈ opening
    · obtain ⟨before, cut⟩ := Text.exists_before_afterLastFeed broken
      have blank := isOpening.blank
      rw [cut, List.forall_mem_append, List.forall_mem_cons] at blank
      rw [split, cut, List.append_assoc, List.cons_append, firstIndent_append_feed blank.1, ← cut]
      exact firstIndent_of_first unbroken blank.2.2 solid rest
    · rw [split, Text.afterLastFeed_of_not_mem broken]
      exact firstIndent_of_first broken isOpening.blank solid rest

theorem startsWithBreak_of_opening {opening text : List Char}
    (isOpening : Text.IsOpening opening text) :
    startsWithBreak text = true ↔ '\n' ∈ opening := by
  rw [startsWithBreak, List.contains_iff_mem, isOpening.eq_takeWhile]

/-- The place that is reported follows from the blanks before the first character of a text that is
not blank. A line feed among them moves the report up by one line, and the column is the number of
blanks behind the last of these line feeds. -/
theorem templatePosition_of_opening {opening text : List Char}
    (isOpening : Text.IsOpening opening text) (startLine : Nat) :
    templatePosition text startLine =
        { line := if '\n' ∈ opening then startLine - 1 else startLine
          column := if opening = text then 0 else (Text.afterLastFeed opening).length } ∧
      ('\n' ∈ opening ↔ ∃ before after, text = before ++ '\n' :: after ∧ '\n' ∉ before ∧
        ∀ c ∈ before, Text.isBlank c = true) := by
  refine ⟨?_, isOpening.feed_mem_iff⟩
  simp only [templatePosition, firstIndent_of_opening isOpening,
    startsWithBreak_of_opening isOpening]

theorem templatePosition_of_mixed_breaks :
    Text.IsOpening ['\r', '\n', ' ', '\t', '\r', '\n', '\u2003', '\n', '\u00a0', '\t']
        ['\r', '\n', ' ', '\t', '\r', '\n', '\u2003', '\n', '\u00a0', '\t', 'a', '\n', 'b'] ∧
      templatePosition
          ['\r', '\n', ' ', '\t', '\r', '\n', '\u2003', '\n', '\u00a0', '\t', 'a', '\n', 'b'] 7 =
        { line := 6, column := 2 } := by
  have isOpening := Text.isOpening_takeWhile
    ['\r', '\n', ' ', '\t', '\r', '\n', '\u2003', '\n', '\u00a0', '\t', 'a', '\n', 'b']
  exact ⟨isOpening, (templatePosition_of_opening isOpening 7).1.trans (by decide)⟩

end CssInline
