import CssInline.Proofs.Lines
import CssInline.Proofs.Program
import CssInline.Proofs.Reports
import CssInline.Proofs.Tolerance

/-! The lines that failing templates are reported on, and what a report shows of them. -/

namespace CssInline

open Code

/-! Lines of a text -/

namespace Text

theorem length_lines_le (c : Char) (rest : List Char) :
    (lines rest).length + lineFeeds [c] ≤ (lines (c :: rest)).length := by
  rw [lines]
  split
  · rename_i isFeed
    rw [isFeed]
    exact Nat.le_refl _
  · rename_i noFeed
    have none : lineFeeds [c] = 0 := by
      rw [lineFeeds, List.count_eq_zero, List.mem_singleton]
      exact fun same => noFeed same.symm
    rw [none, Nat.add_zero]
    split
    · exact Nat.le_refl _
    · split
      · rename_i empty
        rw [empty]
        exact Nat.zero_le _
      · rename_i line more same
        rw [same]
        exact Nat.le_refl _

/-- What stands in a text stands on a line of it. -/
theorem lineFeeds_lt_lines (passed : List Char) {rest : List Char} (going : rest ≠ []) :
    lineFeeds passed < (lines (passed ++ rest)).length := by
  induction passed with
  | nil => exact List.length_pos_iff.mpr (lines_ne_nil going)
  | cons c passed ih =>
    have step := length_lines_le c (passed ++ rest)
    rw [← List.singleton_append, lineFeeds_append, List.singleton_append, List.cons_append]
    omega

end Text

theorem Code.Cursor.Reaches.line_le_lines {text : List Char} {cursor : Cursor}
    (reaches : (Cursor.start text).Reaches cursor) (going : cursor.rest ≠ []) :
    cursor.line ≤ (Text.lines text).length := by
  obtain ⟨passed, same, line⟩ := reaches
  have standing := Text.lineFeeds_lt_lines passed going
  rw [← same] at standing
  rw [line, Nat.add_comm]
  exact standing

/-! Reports -/

namespace Report

theorem sourceLine?_isSome (source : String) (position : Position) :
    (sourceLine? source position).isSome ↔
      1 ≤ position.line ∧ position.line ≤ (Text.lines source.toList).length := by
  rw [sourceLine?]
  split
  · rename_i zero
    rw [zero]
    exact ⟨nofun, fun range => absurd range.1 (Nat.not_succ_le_zero 0)⟩
  · rw [isSome_getElem?]
    omega

theorem excerptLines_of_none {source : String} {position : Position}
    (outside : sourceLine? source position = none) : excerptLines source position = "" := by
  rw [excerptLines, outside]

theorem excerptLines_of_some {source : String} {position : Position} {line : List Char}
    (inside : sourceLine? source position = some line) : excerptLines source position ≠ "" := by
  rw [excerptLines, inside]
  intro empty
  have lengths := congrArg String.length empty
  simp at lengths

theorem excerptLines_ne_empty (source : String) (position : Position) :
    excerptLines source position ≠ "" ↔
      1 ≤ position.line ∧ position.line ≤ (Text.lines source.toList).length := by
  rw [← sourceLine?_isSome]
  cases found : sourceLine? source position with
  | none => simp [excerptLines_of_none found]
  | some line => simp [excerptLines_of_some found]

end Report

/-- What a diagnostic shows above the excerpt. -/
def Diagnostic.heading (diagnostic : Diagnostic) : String :=
  "error: " ++ diagnostic.message ++ "\n" ++
    " --> " ++ Report.place diagnostic.filename diagnostic.position ++ "\n"

theorem Diagnostic.render_of_position {diagnostic : Diagnostic} {position : Position}
    (placed : diagnostic.position = some position) (source : String) :
    diagnostic.render source = diagnostic.heading ++ Report.excerptLines source position := by
  rw [render, Report.render, heading, placed, Option.elim_some]
  exact String.append_empty

/-! Lines above the file -/

/-- A report moves up by one line where the template opens with a line break, and so out of the file
from its first line. -/
def Template.IsAboveFile (template : Template) : Prop :=
  template.startLine = 1 ∧ startsWithBreak template.joined = true

theorem templatePosition_line_le (text : List Char) (startLine : Nat) :
    (templatePosition text startLine).line ≤ startLine := by
  rw [templatePosition]
  split
  · exact Nat.sub_le _ _
  · exact Nat.le_refl _

theorem Template.isAboveFile_iff (template : Template) (counted : 1 ≤ template.startLine) :
    template.IsAboveFile ↔
      (templatePosition template.joined template.startLine).line = 0 := by
  rw [IsAboveFile, templatePosition]
  cases startsWithBreak template.joined with
  | true =>
    simp only [if_pos, and_true]
    omega
  | false =>
    simp only [Bool.false_eq_true, if_false, and_false, false_iff]
    omega

namespace Context

variable {context : Context}

/-! From a report back to the template -/

theorem diagnostics_inlined {program : Program}
    (parsed : Program.parse? (Dialect.ofFilename context.filename) context.code = some program) :
    Event.diagnostics context.inlined.events =
      Event.diagnostics (context.treesPass program.items).events := by
  rw [inlined_of_parsed parsed, Run.diagnostics_bind (fun _ => rfl), Pass.events_toRun,
    pass_inlineProgram]

theorem site_of_reported (lenient : context.config.strict = false) {diagnostic : Diagnostic}
    (reported : diagnostic ∈ Event.diagnostics context.inlined.events) :
    ∃ program node site,
      Program.parse? (Dialect.ofFilename context.filename) context.code = some program ∧
        node ∈ Tree.nodesOf program.items ∧ context.siteAt? node = some site ∧
          context.report? site = some diagnostic := by
  cases parsed : Program.parse? (Dialect.ofFilename context.filename) context.code with
  | none =>
    rw [inlined_of_unparsed parsed] at reported
    cases reported
  | some program =>
    obtain ⟨done, left, comes⟩ := context.exists_comesBy program.items
    rw [diagnostics_inlined parsed, comes.diagnostics lenient] at reported
    obtain ⟨site, isSite, report⟩ := List.mem_filterMap.mp reported
    obtain ⟨node, passed, found⟩ := List.mem_filterMap.mp isSite
    have inside : node ∈ Tree.nodesOf program.items := by
      rw [comes.order]
      exact List.mem_append_left _ passed
    exact ⟨program, node, site, rfl, inside, found, report⟩

/-- A diagnostic is what is reported about a template that stands in the file. -/
inductive IsAbout (context : Context) (diagnostic : Diagnostic) : Template → Prop
  | intro {program : Program} {line : Nat} {quasis : List Quasi} {parts holes : List Tree}
      (parsed : Program.parse? (Dialect.ofFilename context.filename) context.code = some program)
      (inside : .node (.tagged line quasis) parts ∈ Tree.nodesOf program.items)
      (isSite : context.siteAt? (.node (.tagged line quasis) parts) =
        some (.template ⟨quasis.map Quasi.text, line⟩ holes))
      (reports : context.report? (.template ⟨quasis.map Quasi.text, line⟩ holes) =
        some diagnostic) :
      IsAbout context diagnostic ⟨quasis.map Quasi.text, line⟩

theorem exists_isAbout (lenient : context.config.strict = false) {diagnostic : Diagnostic}
    (reported : diagnostic ∈ Event.diagnostics context.inlined.events) {position : Position}
    (placed : diagnostic.position = some position) :
    ∃ template, context.IsAbout diagnostic template ∧
      position = templatePosition template.joined template.startLine := by
  obtain ⟨program, ⟨form, parts⟩, site, parsed, inside, isSite, report⟩ :=
    site_of_reported lenient reported
  obtain ⟨failure, _, same⟩ := Option.map_eq_some_iff.mp report
  have place : site.position? = some position := by
    rw [← placed, ← same]
  cases site with
  | importOf clause name => cases place
  | require path => cases place
  | template template holes =>
    cases place
    obtain ⟨line, quasis, inTag, types, shape, rfl⟩ := Site.of?_template isSite
    obtain ⟨rfl, _⟩ := Tree.node.inj shape
    exact ⟨_, .intro parsed inside isSite report, rfl⟩

theorem IsAbout.starts {diagnostic : Diagnostic} {template : Template}
    (about : context.IsAbout diagnostic template) :
    1 ≤ template.startLine ∧ template.startLine ≤ (Text.lines context.code.toList).length := by
  cases about with
  | intro parsed inside isSite reports =>
    obtain ⟨_, ⟨counted, cursor, reaches, going, before⟩, _⟩ := Program.fits_of_parse? parsed inside
    exact ⟨counted, Nat.le_trans before (reaches.line_le_lines going)⟩

/-- A lenient run reports a template on a line of the file, and the report shows an excerpt of it,
unless the template starts on the first line and its text opens with a line break. In that case the
line is zero, and there is no excerpt. -/
theorem reported_line_exists_iff_not_above_file (context : Context)
    (lenient : context.config.strict = false) {diagnostic : Diagnostic} {position : Position}
    (reported : diagnostic ∈ Event.diagnostics context.inlined.events)
    (placed : diagnostic.position = some position) :
    ∃ template, context.IsAbout diagnostic template ∧
      position = templatePosition template.joined template.startLine ∧
      (1 ≤ position.line ∧ position.line ≤ (Text.lines context.code.toList).length ↔
        ¬ template.IsAboveFile) ∧
      (template.IsAboveFile → position.line = 0) ∧
      diagnostic.render context.code =
        diagnostic.heading ++ Report.excerptLines context.code position ∧
      (Report.excerptLines context.code position ≠ "" ↔ ¬ template.IsAboveFile) := by
  obtain ⟨template, about, rfl⟩ := exists_isAbout lenient reported placed
  obtain ⟨counted, ends⟩ := about.starts
  have above := template.isAboveFile_iff counted
  have lineExists : 1 ≤ (templatePosition template.joined template.startLine).line ∧
      (templatePosition template.joined template.startLine).line ≤
        (Text.lines context.code.toList).length ↔ ¬ template.IsAboveFile := by
    have below := templatePosition_line_le template.joined template.startLine
    rw [above]
    omega
  refine ⟨template, about, rfl, lineExists, above.mp, Diagnostic.render_of_position placed _, ?_⟩
  rw [Report.excerptLines_ne_empty]
  exact lineExists

/-- Two templates that the processor refuses, the same but for the line. -/
def refusingAll : Context where
  config := {
    matcher := .css
    tag := "css"
    processor := fun _ _ => .error ⟨"bad", none⟩
    strict := false }
  loader := Modules.empty.loader
  filename := "a.js"
  code := "css\x60\n  a\x60;\ncss\x60\n  a\x60;"

theorem refusingAll_reports_one_line_above_file :
    Event.diagnostics refusingAll.inlined.events =
        [⟨"bad", "a.js", some ⟨0, 2⟩⟩, ⟨"bad", "a.js", some ⟨2, 2⟩⟩] ∧
      Report.excerptLines refusingAll.code ⟨0, 2⟩ = "" ∧
      Report.excerptLines refusingAll.code ⟨2, 2⟩ ≠ "" := by
  have reports : Event.diagnostics refusingAll.inlined.events =
      [⟨"bad", "a.js", some ⟨0, 2⟩⟩, ⟨"bad", "a.js", some ⟨2, 2⟩⟩] := by decide +kernel
  have upper : (⟨"bad", "a.js", some ⟨0, 2⟩⟩ : Diagnostic) ∈
      Event.diagnostics refusingAll.inlined.events := by
    rw [reports]
    exact List.mem_cons_self
  have lower : (⟨"bad", "a.js", some ⟨2, 2⟩⟩ : Diagnostic) ∈
      Event.diagnostics refusingAll.inlined.events := by
    rw [reports]
    exact List.mem_cons_of_mem _ List.mem_cons_self
  refine ⟨reports, ?_, ?_⟩
  · obtain ⟨_, _, _, lineExists, _, _, shown⟩ :=
      reported_line_exists_iff_not_above_file refusingAll rfl upper rfl
    apply Classical.byContradiction
    intro nonempty
    exact absurd (lineExists.mpr (shown.mp nonempty)).1 (by decide)
  · obtain ⟨_, _, _, lineExists, _, _, shown⟩ :=
      reported_line_exists_iff_not_above_file refusingAll rfl lower rfl
    exact shown.mpr (lineExists.mp (by decide))

end Context

end CssInline
