import CssInline.Processor.Rules
import CssInline.Proofs.Escape
import CssInline.Proofs.JsonExpression
import CssInline.Proofs.Tolerance
import CssInline.Proofs.Written

/-! Templates whose text the processor returns as it is, as a string. -/

namespace CssInline

open Code Placeholder

/-! Sites -/

namespace Site

variable {config : Config} {line : Nat} {quasis : List Quasi} {parts : List Tree}
  {template : Template} {interpolations : List Tree}

theorem of?_tagged
    (isSite : of? config (.node (.tagged line quasis) parts) =
      some (.template template interpolations)) :
    ∃ inTag types, parts = .node (.name config.tag) inTag :: types :: interpolations ∧
      template = ⟨quasis.map Quasi.text, line⟩ := by
  obtain ⟨_, _, inTag, types, same, texts⟩ := of?_template isSite
  cases same
  exact ⟨inTag, types, rfl, texts⟩

end Site

namespace Context

variable (context : Context)

/-- A name stays one, whatever becomes of its parts. -/
theorem finished_name (id : String) (parts : List Tree) :
    ∃ parts', context.finished (.node (.name id) parts) = .node (.name id) parts' := by
  rw [finished, treePass_node]
  cases failed : (context.treesPass parts).failure? with
  | some failure =>
    rw [Pass.andThen_of_some failed]
    exact ⟨_, rfl⟩
  | none =>
    rw [Pass.andThen_of_none failed]
    exact ⟨_, rfl⟩

variable {context} {line : Nat} {quasis : List Quasi} {parts : List Tree}
  {template : Template} {interpolations : List Tree}

/-- A template is still one when its parts are done. -/
theorem isSite_finished
    (isSite : Site.of? context.config (.node (.tagged line quasis) parts) =
      some (.template template interpolations)) :
    Site.of? context.config (.node (.tagged line quasis) (parts.map context.finished)) =
      some (.template template (interpolations.map context.finished)) := by
  obtain ⟨inTag, types, shape, texts⟩ := Site.of?_tagged isSite
  obtain ⟨inTag', finishedTag⟩ := context.finished_name context.config.tag inTag
  rw [shape, List.map_cons, List.map_cons, finishedTag, texts]
  change Site.ofTagged? context.config context.config.tag line quasis _ = _
  unfold Site.ofTagged?
  rw [if_pos (beq_self_eq_true _)]

/-- The walk goes through a site once its parts are done and it compiles. -/
theorem treePass_of_compiled {form : Form} {site : Site} {tree : Tree}
    (goes : ∀ part ∈ parts, (context.treePass part).failure? = none)
    (isSite : Site.of? context.config (.node form (parts.map context.finished)) = some site)
    (compiled : (site.compile context).outcome = .ok tree) :
    (context.treePass (.node form parts)).failure? = none ∧
      context.finished (.node form parts) = tree := by
  have ran : context.sitePass (.node form (parts.map context.finished)) =
      ⟨tree, (site.compile context).events, none⟩ := by
    unfold sitePass
    rw [isSite]
    exact Pass.ofRun_of_ok _ compiled
  have whole : context.treePass (.node form parts) =
      ⟨tree, context.happened parts ++ (site.compile context).events, none⟩ := by
    rw [treePass_node, treesPass_of_goes goes, Pass.andThen_of_none rfl]
    dsimp only
    rw [ran]
  exact ⟨by rw [whole], by rw [finished, whole]⟩

end Context

/-! Processors that quote -/

namespace Context

/-- In the file the processor returns all styles as they are, as a JSON string. -/
def Quotes (context : Context) : Prop :=
  ∀ styles, context.config.processor context.filename styles =
    .ok (String.ofList (Text.jsonString styles.toList))

/-- The stem of all placeholders in the file. -/
abbrev stem (context : Context) : List Char :=
  freshStem context.code.toList

variable {context : Context}

theorem compileTemplate_of_quotes (quotes : context.Quotes) (template : Template) :
    (context.compileTemplate template).outcome =
      .ok ⟨String.ofList (Text.jsonString (template.styles context.stem).toList),
        context.stem⟩ := by
  have output : (process context.filename context.config.processor
      (template.styles context.stem)).outcome =
      .ok (String.ofList (Text.jsonString (template.styles context.stem).toList)) := by
    unfold process
    rw [Run.bind_of_ok _ rfl, quotes]
    rfl
  have processed :
      (template.process context.filename context.code context.config.processor).outcome =
      .ok ⟨String.ofList (Text.jsonString (template.styles context.stem).toList),
        context.stem⟩ := by
    unfold Template.process
    dsimp only
    rw [Run.bind_of_ok _ output, String.toList_ofList,
      expose_jsonString (freshStem_isStem context.code.toList)]
    rfl
  unfold compileTemplate
  rw [tolerate_of_ok processed]
  exact processed

theorem compile_of_quotes (quotes : context.Quotes) (template : Template) (holes : List Tree) :
    ((Site.template template holes).compile context).outcome =
      .ok (substitute context.stem holes
        (Grammar.jsonTree (template.styles context.stem).toList)) := by
  rw [Site.compile, Site.compileTemplate,
    Run.bind_of_ok _ (compileTemplate_of_quotes quotes template), Run.bind_of_ok _ rfl,
    Site.expressionOf_of_ok (parseExpression_jsonString _)]
  rfl

/-! Templates of a file -/

section Templates

variable {program : Program} {line : Nat} {quasis : List Quasi} {parts interpolations : List Tree}
  {template : Template}
  (parsed : Program.parse? (Dialect.ofFilename context.filename) context.code = some program)
  (inside : .node (.tagged line quasis) parts ∈ Tree.nodesOf program.items)
  (isSite : Site.of? context.config (.node (.tagged line quasis) parts) =
    some (.template template interpolations))

include parsed inside

/-- The stem is in no text of a template as it is written, but escapes can spell it. -/
theorem stem_in_quasi :
    ∀ quasi ∈ quasis, ¬ context.stem <:+: quasi.raw.toList ∧
      (context.stem <:+: quasi.text.toList ↔ Spells quasi.raw.toList context.stem) := by
  intro quasi member
  obtain ⟨_, _, written⟩ := Program.fits_of_parse? parsed inside
  obtain ⟨raw, inFile, rfl⟩ := written quasi member
  have same : (quasiOf raw).raw.toList = raw := String.toList_ofList
  have absent : ¬ context.stem <:+: raw := fun occurs =>
    freshStem_not_infix context.code.toList (occurs.trans inFile)
  have noFeed : '\n' ∉ context.stem :=
    (freshStem_isStem context.code.toList).not_mem (by decide) (by decide)
  rw [same]
  refine ⟨absent, fun occurs => ?_, infix_text_of_spells⟩
  exact (infix_or_spells noFeed occurs).resolve_left absent

include isSite

theorem length_texts : template.texts.length = interpolations.length + 1 := by
  obtain ⟨count, _, _⟩ := Program.fits_of_parse? parsed inside
  obtain ⟨inTag, types, shape, same⟩ := Site.of?_tagged isSite
  rw [shape] at count
  rw [same, List.length_map]
  simpa using count.symm

theorem clear_of_unspelled
    (unspelled : ∀ quasi ∈ quasis, ¬ Spells quasi.raw.toList context.stem) :
    ∀ text ∈ template.texts.map String.toList, ¬ context.stem <:+: text := by
  obtain ⟨inTag, types, shape, same⟩ := Site.of?_tagged isSite
  intro text member occurs
  rw [same, List.map_map] at member
  obtain ⟨quasi, isQuasi, rfl⟩ := List.mem_map.mp member
  exact unspelled quasi isQuasi ((stem_in_quasi parsed inside quasi isQuasi).2.mp occurs)

/-- The texts of a template, of which no one holds the stem. -/
theorem texts_of_template (plain : ∀ quasi ∈ quasis, '\\' ∉ quasi.raw.toList) :
    ∃ first rest, template.texts.map String.toList = first :: rest ∧
      rest.length = interpolations.length ∧ ∀ text ∈ first :: rest, ¬ context.stem <:+: text := by
  have length := length_texts parsed inside isSite
  have clear := clear_of_unspelled parsed inside isSite fun quasi isQuasi spells =>
    plain quasi isQuasi (mem_of_spells spells)
  rw [← List.length_map String.toList] at length
  cases texts : template.texts.map String.toList with
  | nil =>
    rw [texts] at length
    cases length
  | cons first rest =>
    rw [texts] at clear length
    exact ⟨first, rest, rfl, Nat.succ.inj length, clear⟩

/-- No interpolation of a file is written from its value, whatever becomes of its parts. -/
theorem literal?_of_interpolation :
    ∀ hole ∈ interpolations.map context.finished, literal? hole = none := by
  obtain ⟨inTag, types, shape, _⟩ := Site.of?_tagged isSite
  have whole := Program.isWritten_of_parse? parsed inside
  intro hole member
  obtain ⟨interpolation, isInterpolation, isHole⟩ := List.mem_map.mp member
  have isPart : interpolation ∈ parts := by
    rw [shape]
    exact List.mem_cons_of_mem _ (List.mem_cons_of_mem _ isInterpolation)
  rw [← isHole]
  exact context.literal?_finished interpolation (whole.part isPart)

end Templates

/-- The string for the styles of a template is woven from its texts. -/
theorem jsonTree_styles (stem : List Char) {template : Template} {first : List Char}
    {rest : List (List Char)} (texts : template.texts.map String.toList = first :: rest) :
    Grammar.jsonTree (template.styles stem).toList =
      wovenString stem first rest
        (String.ofList (Text.jsonString (template.styles stem).toList)) := by
  have count : template.holes = rest.length := by
    have lengths := congrArg List.length texts
    simp only [List.length_map, List.length_cons] at lengths
    rw [Template.holes, lengths, Nat.add_sub_cancel]
  have value : template.styles stem =
      String.ofList (weave stem rest.length (first :: rest)) := by
    rw [Template.styles, texts, count]
  rw [Grammar.jsonTree, wovenString, String.ofList_toList, ← value]

end Context

/-! The round trip -/

namespace Context

/-- A template of a file whose texts hold no escapes, where the processor quotes: the terms of what
it becomes are its texts, except for the empty ones, and all its interpolations, in order, just if
none of its texts runs into the placeholder after it or into the number before it. Then no term
holds a placeholder, and if there are interpolations, it becomes their sum. -/
theorem quoted_template_keeps_terms_iff_separated (context : Context) (quotes : context.Quotes)
    {program : Program}
    (parsed : Program.parse? (Dialect.ofFilename context.filename) context.code = some program)
    {line : Nat} {quasis : List Quasi} {parts : List Tree} {template : Template}
    {interpolations : List Tree}
    (inside : .node (.tagged line quasis) parts ∈ Tree.nodesOf program.items)
    (isSite : Site.of? context.config (.node (.tagged line quasis) parts) =
      some (.template template interpolations))
    (plain : ∀ quasi ∈ quasis, '\\' ∉ quasi.raw.toList)
    (bounded : interpolations.length ≤ idBound)
    (goes : ∀ part ∈ parts, (context.treePass part).failure? = none) :
    ∃ first rest, template.texts.map String.toList = first :: rest ∧
      rest.length = interpolations.length ∧
      (∀ text ∈ first :: rest, ¬ context.stem <:+: text) ∧
      (context.treePass (.node (.tagged line quasis) parts)).failure? = none ∧
      (termsOf (context.finished (.node (.tagged line quasis) parts)) =
        terms first rest (interpolations.map context.finished) ↔
          areSeparated context.stem (first :: rest) = true) ∧
      (interpolations ≠ [] → areSeparated context.stem (first :: rest) = true →
        context.finished (.node (.tagged line quasis) parts) =
          concatenation first rest (interpolations.map context.finished)) := by
  obtain ⟨first, rest, texts, same, clear⟩ := texts_of_template parsed inside isSite plain
  obtain ⟨goesOn, becomes⟩ := treePass_of_compiled goes (isSite_finished isSite)
    (compile_of_quotes quotes template (interpolations.map context.finished))
  have isStem := freshStem_isStem context.code.toList
  have sameHoles : rest.length = (interpolations.map context.finished).length := by
    rw [List.length_map, same]
  have boundedHoles : (interpolations.map context.finished).length ≤ idBound := by
    rwa [List.length_map]
  have written := literal?_of_interpolation parsed inside isSite
  -- What the processor returns is the woven string, and the rest is between it and the pieces.
  rw [jsonTree_styles context.stem texts] at becomes
  refine ⟨first, rest, texts, same, clear, goesOn, ?_, fun some separated => ?_⟩
  · rw [becomes]
    exact termsOf_substitute_wovenString isStem boundedHoles sameHoles written clear
  · have someHoles : interpolations.map context.finished ≠ [] := by simpa using some
    rw [becomes]
    exact substitute_wovenString isStem boundedHoles sameHoles someHoles clear separated

/-- Two templates that differ in the text after the interpolation. -/
def quoting : Context where
  config := {
    matcher := .css
    tag := "css"
    processor := .ofRules [⟨none, .format "%j"⟩]
    strict := true }
  loader := Modules.empty.loader
  filename := "a.js"
  code := "css\x60a$\x7bx\x7d b\x60; css\x60a$\x7bx\x7d1\x60;"

def quoted (text : String) : Tree :=
  .node (.tagged 1 [⟨"a", some "a"⟩, ⟨text, some text⟩]) [.name "css", .absent, .name "x"]

def quotedProgram : Program where
  shebang := none
  items := [.node .expressionStatement [quoted " b"], .node .expressionStatement [quoted "1"]]

/-- The digit after the placeholder counts as a part of its number. -/
theorem quoting_keeps_terms_of_one_template :
    termsOf (quoting.finished (quoted " b")) =
        [literalOf ['a'], .name "x", literalOf [' ', 'b']] ∧
      termsOf (quoting.finished (quoted "1")) ≠
        [literalOf ['a'], .name "x", literalOf ['1']] := by
  have quotes : quoting.Quotes := by
    intro styles
    change Except.ok (String.ofList (Text.jsonString styles.toList ++ [])) = _
    rw [List.append_nil]
  have parsed : Program.parse? (Dialect.ofFilename quoting.filename) quoting.code =
      some quotedProgram := by decide +kernel
  have bounded : [Tree.name "x"].length ≤ idBound := Nat.one_le_two_pow
  have goes : ∀ part ∈ [Tree.name "css", .absent, .name "x"],
      (quoting.treePass part).failure? = none := by decide +kernel
  constructor
  · obtain ⟨first, rest, texts, same, clear, goesOn, keeps, sum⟩ :=
      quoted_template_keeps_terms_iff_separated quoting quotes parsed
        (show quoted " b" ∈ Tree.nodesOf quotedProgram.items by decide +kernel) rfl
        (by decide +kernel) bounded goes
    cases texts
    exact keeps.mpr (by decide +kernel)
  · obtain ⟨first, rest, texts, same, clear, goesOn, keeps, sum⟩ :=
      quoted_template_keeps_terms_iff_separated quoting quotes parsed
        (show quoted "1" ∈ Tree.nodesOf quotedProgram.items by decide +kernel) rfl
        (by decide +kernel) bounded goes
    cases texts
    intro kept
    exact absurd (keeps.mp kept) (by decide +kernel)

end Context

end CssInline
