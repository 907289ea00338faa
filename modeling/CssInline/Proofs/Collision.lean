import CssInline.Proofs.Codec
import CssInline.Proofs.RoundTrip

/-! What can be taken for a placeholder in the text of a template. -/

namespace CssInline

open Code

/-! Placeholders in woven texts -/

namespace Placeholder

variable {stem : List Char} {count : Nat}

theorem prefix_of_take? (isStem : IsStem stem) {left more : List Char} (going : left ≠ [])
    {found : Nat × List Char} (taken : take? stem count (left ++ (stem ++ more)) = some found) :
    stem <+: left := by
  obtain ⟨same, _⟩ := take?_eq_some.mp taken
  rw [name, List.append_assoc] at same
  rcases List.append_eq_append_iff.mp same with ⟨tail, split, inner⟩ | ⟨tail, split, _⟩
  · have shorter : tail.length < stem.length := by
      have positive := List.length_pos_iff.mpr going
      rw [split, List.length_append]
      omega
    rcases List.append_eq_append_iff.mp inner with ⟨other, longer, _⟩ | ⟨other, whole, number⟩
    · rw [longer, List.length_append] at shorter
      omega
    · exact absurd number (digits_ne_tail isStem whole shorter (Text.decimal_ne_nil _)
        fun _ => Text.isDigit_of_mem_decimal)
  · exact ⟨tail, split.symm⟩

/-- Behind a text without the stem and a placeholder, nothing is taken for a placeholder before the
one that is there. -/
theorem place_of_take? (isStem : IsStem stem) {id : Nat} {text more passed rest : List Char}
    (clear : ¬ stem <:+: text) (whole : text ++ (name stem id ++ more) = passed ++ rest)
    {found : Nat × List Char} (taken : take? stem count rest = some found) :
    (passed = text ∧ rest = name stem id ++ more) ∨
      ∃ inner, passed = text ++ (name stem id ++ inner) ∧ more = inner ++ rest := by
  apply place_of_starts isStem whole (starts_of_take? taken)
  intro left going same behind
  rw [behind, name, List.append_assoc] at taken
  have inside := (prefix_of_take? isStem going taken).isInfix
  refine clear (inside.trans ?_)
  rw [same]
  exact (List.suffix_append passed left).isInfix

/-- What is taken for a placeholder in woven texts starts where one was put between two of them. -/
theorem woven_of_take? (isStem : IsStem stem) {id : Nat} {texts : List (List Char)}
    (numbered : id + texts.length = count + 1) (clear : ∀ text ∈ texts, ¬ stem <:+: text)
    {passed rest : List Char} (whole : weaveFrom stem count id texts = passed ++ rest)
    {found : Nat × List Char} (taken : take? stem count rest = some found) :
    ∃ earlier text next later, texts = earlier ++ text :: next :: later ∧
      passed = weaveFrom stem count id earlier ++ text ∧
      rest = name stem (id + earlier.length) ++
        weaveFrom stem count (id + earlier.length + 1) (next :: later) := by
  induction texts generalizing id passed with
  | nil =>
    obtain ⟨_, rfl⟩ := List.append_eq_nil_iff.mp whole.symm
    cases length_of_take? isStem.nonempty taken
  | cons text texts ih =>
    have clearText := clear text List.mem_cons_self
    cases texts with
    | nil =>
      rw [weaveFrom_singleton (not_lt_of_numbered numbered)] at whole
      rw [whole] at clearText
      refine absurd ((starts_of_take? taken).isInfix.trans ?_) clearText
      exact (List.suffix_append passed rest).isInfix
    | cons next later =>
      have more := lt_of_numbered numbered
      rw [weaveFrom_cons more] at whole
      -- Between this text and the next one, or further on in the other texts.
      rcases place_of_take? isStem clearText whole taken with
        ⟨before, behind⟩ | ⟨inner, before, split⟩
      · exact ⟨[], text, next, later, rfl, before, behind⟩
      · obtain ⟨earlier, text', next', later', order, inside, behind⟩ := ih (numbered_tail numbered)
          (fun other member => clear other (List.mem_cons_of_mem text member)) split
        refine ⟨text :: earlier, text', next', later', by rw [order, List.cons_append], ?_, ?_⟩
        · rw [before, inside, weaveFrom_cons more]
          simp only [List.append_assoc]
        · rw [behind, List.length_cons, Nat.add_comm earlier.length, ← Nat.add_assoc]

/-- A placeholder is taken for itself, unless a digit follows. -/
theorem eq_of_take?_name {id : Nat} {more : List Char} {found : Nat × List Char}
    (noDigit : more.head?.any Char.isDigit = false)
    (taken : take? stem count (name stem id ++ more) = some found) : found = (id, more) := by
  obtain ⟨same, ends, _⟩ := take?_eq_some.mp taken
  rw [name, name, List.append_assoc, List.append_assoc] at same
  have digits := List.append_cancel_left same
  obtain ⟨own, ownMore⟩ :=
    takeWhile_append_of_ends (fun _ => Text.isDigit_of_mem_decimal (n := id)) noDigit
  obtain ⟨read, readMore⟩ :=
    takeWhile_append_of_ends (fun _ => Text.isDigit_of_mem_decimal (n := found.1)) ends
  have number : Text.decimal id = Text.decimal found.1 := by rw [← own, digits, read]
  have value : id = found.1 := by
    rw [← Text.decimalValue_decimal id, number, Text.decimalValue_decimal]
  have rest : more = found.2 := by rw [← ownMore, digits, readMore]
  rw [value, rest]

end Placeholder

/-! Templates of a file -/

namespace Context

open Placeholder

/-- The stem of the placeholders stands in no text of a template as it is written in the file. It
stands in what is handed to the processor for a text just if escapes in the text spell it. Where
they do not, all that can be taken for a placeholder in the text of the whole template starts where
one was put in, and is taken for that one unless the text after it starts with a digit. -/
theorem placeholders_collide_only_with_spelled_stems (context : Context) {program : Program}
    (parsed : Program.parse? (Dialect.ofFilename context.filename) context.code = some program)
    {line : Nat} {quasis : List Quasi} {parts : List Tree} {template : Template}
    {interpolations : List Tree}
    (inside : .node (.tagged line quasis) parts ∈ Tree.nodesOf program.items)
    (isSite : Site.of? context.config (.node (.tagged line quasis) parts) =
      some (.template template interpolations)) :
    template.texts = quasis.map Quasi.text ∧ template.holes = interpolations.length ∧
      (∀ quasi ∈ quasis, ¬ context.stem <:+: quasi.raw.toList ∧
        (context.stem <:+: quasi.text.toList ↔ Spells quasi.raw.toList context.stem)) ∧
      ((∀ quasi ∈ quasis, ¬ Spells quasi.raw.toList context.stem) →
        ∀ passed rest found, (template.styles context.stem).toList = passed ++ rest →
          take? context.stem template.holes rest = some found →
          ∃ earlier text next later,
            template.texts.map String.toList = earlier ++ text :: next :: later ∧
            passed = weave context.stem template.holes earlier ++ text ∧
            rest = name context.stem earlier.length ++
              weaveFrom context.stem template.holes (earlier.length + 1) (next :: later) ∧
            (next.head?.any Char.isDigit = false → found = (earlier.length,
              weaveFrom context.stem template.holes (earlier.length + 1) (next :: later)))) := by
  have isStem := freshStem_isStem context.code.toList
  have length := length_texts parsed inside isSite
  have holes : template.holes = interpolations.length := by
    rw [Template.holes, length, Nat.add_sub_cancel]
  obtain ⟨inTag, types, shape, same⟩ := Site.of?_tagged isSite
  refine ⟨by rw [same], holes, stem_in_quasi parsed inside, ?_⟩
  intro unspelled passed rest found whole taken
  rw [Template.styles, String.toList_ofList] at whole
  have clear := clear_of_unspelled parsed inside isSite unspelled
  have numbered : 0 + (template.texts.map String.toList).length = template.holes + 1 := by
    rw [holes, List.length_map, length, Nat.zero_add]
  obtain ⟨earlier, text, next, later, order, before, behind⟩ :=
    woven_of_take? isStem numbered clear whole taken
  rw [Nat.zero_add] at behind
  refine ⟨earlier, text, next, later, order, before, behind, fun noDigit => ?_⟩
  have last : earlier.length + 1 + (next :: later).length = template.holes + 1 := by
    rw [order] at numbered
    simp only [List.length_append, List.length_cons] at numbered ⊢
    omega
  rw [behind] at taken
  exact eq_of_take?_name (head?_weaveFrom isStem last noDigit) taken

/-- Two templates of which one spells the stem. -/
def escaping : Context where
  config := {
    matcher := .css
    tag := "css"
    processor := .ofRules [⟨none, .format "%j"⟩]
    strict := true }
  loader := Modules.empty.loader
  filename := "a.js"
  code := "css\x60\\x5f_css_hole_0 $\x7bx\x7d\x60; css\x60a$\x7bx\x7d b\x60;"

def twoTexts (first second : Quasi) : Tree :=
  .node (.tagged 1 [first, second]) [.name "css", .absent, .name "x"]

def spelling : Tree :=
  twoTexts ⟨"\\x5f_css_hole_0 ", some "__css_hole_0 "⟩ ⟨"", some ""⟩

def harmless : Tree :=
  twoTexts ⟨"a", some "a"⟩ ⟨" b", some " b"⟩

def escapingProgram : Program where
  shebang := none
  items := [.node .expressionStatement [spelling], .node .expressionStatement [harmless]]

/-- Text of the one template is taken for its placeholder. -/
theorem escaping_collides_in_one_template :
    Spells "\\x5f_css_hole_0 ".toList escaping.stem ∧
      take? escaping.stem 1 (Template.styles ⟨["__css_hole_0 ", ""], 1⟩ escaping.stem).toList =
        some (0, " __css_hole_0".toList) ∧
      ∀ passed rest found,
        (Template.styles ⟨["a", " b"], 1⟩ escaping.stem).toList = passed ++ rest →
          take? escaping.stem 1 rest = some found → passed = ['a'] ∧ found = (0, [' ', 'b']) := by
  have parsed : Program.parse? (Dialect.ofFilename escaping.filename) escaping.code =
      some escapingProgram := by decide +kernel
  have spellingInside : spelling ∈ Tree.nodesOf escapingProgram.items := by decide +kernel
  have harmlessInside : harmless ∈ Tree.nodesOf escapingProgram.items := by decide +kernel
  refine ⟨?_, by decide +kernel, ?_⟩
  · obtain ⟨_, _, spelled, _⟩ :=
      placeholders_collide_only_with_spelled_stems escaping parsed spellingInside rfl
    exact (spelled _ List.mem_cons_self).2.mp (Text.occurs_eq_true.mp (by decide +kernel))
  · obtain ⟨_, _, spelled, safe⟩ :=
      placeholders_collide_only_with_spelled_stems escaping parsed harmlessInside rfl
    have noSpelling : ∀ quasi ∈ [(⟨"a", some "a"⟩ : Quasi), ⟨" b", some " b"⟩],
        ¬ Spells quasi.raw.toList escaping.stem := by
      have absent : ∀ quasi ∈ [(⟨"a", some "a"⟩ : Quasi), ⟨" b", some " b"⟩],
          Text.occurs escaping.stem quasi.text.toList = false := by decide +kernel
      intro quasi member spells
      exact Text.occurs_eq_false.mp (absent quasi member) ((spelled quasi member).2.mpr spells)
    intro passed rest found whole taken
    obtain ⟨earlier, text, next, later, order, before, _, same⟩ :=
      safe noSpelling passed rest found whole taken
    have alone : earlier = [] := by
      have lengths := congrArg List.length order
      simp only [List.length_map, List.length_append, List.length_cons, List.length_nil] at lengths
      exact List.eq_nil_of_length_eq_zero (by omega)
    rw [alone] at order before same
    cases order
    exact ⟨before, same rfl⟩

end Context

end CssInline
