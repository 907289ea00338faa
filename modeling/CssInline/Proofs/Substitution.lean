import CssInline.Placeholder.Substitution
import CssInline.Proofs.Placed

/-! Interpolations are put into code all at once: as if variables stood for them, which are replaced
by their values afterwards. -/

namespace CssInline

open Code

/-! Variables and their values -/

/-- The value of the variable that the form is one of. -/
def Code.Form.valueOf? (value? : String → Option Tree) : Form → Option Tree
  | .name id => value? id
  | _ => none

namespace Code.Tree

mutual

/-- The code with variables replaced by their values, which are put in as they are. -/
def replaceNames (value? : String → Option Tree) : Tree → Tree
  | .node form parts =>
    match form.valueOf? value? with
    | some value => value
    | none => .node form (replaceNamesAll value? parts)

def replaceNamesAll (value? : String → Option Tree) : List Tree → List Tree
  | [] => []
  | tree :: trees => tree.replaceNames value? :: replaceNamesAll value? trees

end

variable {value? : String → Option Tree}

theorem replaceNamesAll_eq_map (trees : List Tree) :
    replaceNamesAll value? trees = trees.map (replaceNames value?) := by
  induction trees with
  | nil => rfl
  | cons tree trees ih => rw [replaceNamesAll, ih, List.map_cons]

theorem replaceNames_of_none {form : Form} (missing : form.valueOf? value? = none)
    (parts : List Tree) :
    (node form parts).replaceNames value? = .node form (parts.map (replaceNames value?)) := by
  rw [replaceNames, missing, replaceNamesAll_eq_map]

theorem replaceNames_name {id : String} {value : Tree} (found : value? id = some value) :
    (name id).replaceNames value? = value := by
  rw [name, leaf, replaceNames, Form.valueOf?, found]

/-- Code without the variables is left alone. -/
theorem replaceNames_eq_self (tree : Tree)
    (fresh : ∀ node ∈ tree.nodes, node.form.valueOf? value? = none) :
    tree.replaceNames value? = tree := by
  induction tree using Tree.inductionOn with
  | node form parts ih =>
    have self : form.valueOf? value? = none := fresh _ (mem_nodes.mpr (.inr rfl))
    have kept (part : Tree) (member : part ∈ parts) : part.replaceNames value? = id part :=
      ih part member fun node inside => fresh node (mem_nodes.mpr (.inl ⟨part, member, inside⟩))
    rw [replaceNames_of_none self, List.map_congr_left kept, List.map_id]

end Code.Tree

namespace Placeholder

/-! Replacements with values and with variables -/

section Replacements

variable {value? : String → Option Tree} {stem : List Char} {names : List String}
  {holes : List Tree}

/-- The values of the variables are the interpolations in their order. -/
def Assigns (value? : String → Option Tree) (names : List String) (holes : List Tree) : Prop :=
  names.map value? = holes.map fun hole => some (guarded hole)

theorem Assigns.getElem? (assigns : Assigns value? names holes) (index : Nat) :
    holes[index]?.map guarded =
      ((names.map Tree.name)[index]?.map guarded).map (Tree.replaceNames value?) := by
  have here : names[index]?.map value? = holes[index]?.map fun hole => some (guarded hole) := by
    rw [← List.getElem?_map, assigns, List.getElem?_map]
  rw [List.getElem?_map]
  cases named : names[index]? with
  | none =>
    rw [named, Option.map_none, eq_comm, Option.map_eq_none_iff] at here
    rw [here]
    rfl
  | some id =>
    rw [named, Option.map_some, eq_comm, Option.map_eq_some_iff] at here
    obtain ⟨hole, found, value⟩ := here
    rw [found]
    exact congrArg some (Tree.replaceNames_name value.symm).symm

theorem Assigns.length_eq (assigns : Assigns value? names holes) : names.length = holes.length := by
  simpa using congrArg List.length assigns

theorem holeFor?_names (assigns : Assigns value? names holes) (id : String) :
    holeFor? stem holes id =
      (holeFor? stem (names.map Tree.name) id).map (Tree.replaceNames value?) := by
  simp only [holeFor?, Option.map_bind, Function.comp_def, assigns.getElem?]

theorem replaceNames_plus (left right : Tree) :
    (plus left right).replaceNames value? =
      plus (left.replaceNames value?) (right.replaceNames value?) := rfl

theorem operandOf_names (assigns : Assigns value? names holes) (piece : Piece) :
    operandOf holes piece = (operandOf (names.map Tree.name) piece).replaceNames value? := by
  cases piece with
  | text value => rfl
  | hole id =>
    have same := assigns.getElem? id
    simp only [operandOf]
    cases found : holes[id]? with
    | none =>
      rw [found, Option.map_none, eq_comm, Option.map_map, Option.map_eq_none_iff] at same
      rw [same]
      rfl
    | some hole =>
      rw [found, Option.map_some, eq_comm, Option.map_map, Option.map_eq_some_iff] at same
      obtain ⟨name, found', value⟩ := same
      rw [found']
      exact value.symm

theorem foldl_plus_names (assigns : Assigns value? names holes) (pieces : List Piece)
    {left left' : Tree} (first : left = left'.replaceNames value?) :
    (pieces.map (operandOf holes)).foldl plus left =
      ((pieces.map (operandOf (names.map Tree.name))).foldl plus left').replaceNames value? := by
  induction pieces generalizing left left' with
  | nil => exact first
  | cons piece pieces ih =>
    apply ih
    rw [first, operandOf_names assigns, replaceNames_plus]

theorem sumOf_names (assigns : Assigns value? names holes) (pieces : List Piece) :
    sumOf holes pieces = (sumOf (names.map Tree.name) pieces).replaceNames value? := by
  unfold sumOf
  split
  · exact foldl_plus_names assigns _ rfl
  · exact foldl_plus_names assigns _ rfl

theorem sum?_names (assigns : Assigns value? names holes) (value : String) :
    sum? stem holes value =
      (sum? stem (names.map Tree.name) value).map (Tree.replaceNames value?) := by
  simp only [sum?, List.length_map, assigns.length_eq]
  split
  · exact congrArg some (sumOf_names assigns _)
  · rfl

theorem replacement?_names (assigns : Assigns value? names holes) (form : Form) :
    replacement? stem holes form =
      (replacement? stem (names.map Tree.name) form).map (Tree.replaceNames value?) := by
  unfold replacement?
  split
  · exact holeFor?_names assigns _
  · rw [sum?_names assigns, Option.map_map, Option.map_map]
    rfl
  · rw [holeFor?_names assigns, Option.map_map, Option.map_map]
    rfl
  · rw [holeFor?_names assigns, Option.map_map, Option.map_map]
    rfl
  · rw [sum?_names assigns, Option.map_map, Option.map_map]
    rfl
  · rw [holeFor?_names assigns, Option.map_map, Option.map_map]
    rfl
  · rfl

theorem fill_names (assigns : Assigns value? names holes) (tree : Tree)
    (fresh : ∀ node ∈ tree.nodes, node.form.valueOf? value? = none) :
    fill stem holes tree = (fill stem (names.map Tree.name) tree).replaceNames value? := by
  induction tree using Tree.inductionOn with
  | node form parts ih =>
    have same : replacement? stem holes form = _ := replacement?_names assigns form
    cases replaced : replacement? stem (names.map Tree.name) form with
    | some tree =>
      rw [replaced] at same
      rw [fill_of_some replaced, fill_of_some same]
    | none =>
      rw [replaced] at same
      have self : form.valueOf? value? = none := fresh _ (Tree.mem_nodes.mpr (.inr rfl))
      rw [fill_of_none replaced, fill_of_none same, Tree.replaceNames_of_none self,
        fillAll_eq_map, fillAll_eq_map, List.map_map]
      congr 1
      refine List.map_congr_left fun part member => ih part member fun node inside => ?_
      exact fresh node (Tree.mem_nodes.mpr (.inl ⟨part, member, inside⟩))

end Replacements

/-! Substitution as a whole -/

theorem map_lookup_zip {names : List String} (distinct : names.Nodup) {values : List Tree}
    (count : names.length = values.length) :
    names.map (fun id => (names.zip values).lookup id) = values.map some := by
  induction names generalizing values with
  | nil =>
    rw [List.eq_nil_of_length_eq_zero count.symm]
    rfl
  | cons name names ih =>
    obtain ⟨value, values, rfl⟩ := List.exists_cons_of_length_eq_add_one count.symm
    obtain ⟨other, distinct⟩ := List.nodup_cons.mp distinct
    have later (id : String) (member : id ∈ names) :
        ((name :: names).zip (value :: values)).lookup id = (names.zip values).lookup id := by
      have unequal : id ≠ name := fun same => other (same ▸ member)
      rw [List.zip_cons_cons, List.lookup_cons, beq_false_of_ne unequal]
    rw [List.map_cons, List.map_cons, List.map_congr_left later, ih distinct (by simpa using count)]
    simp

/-- Substitution is simultaneous, and what is put in is not searched again. Let variables that the
code does not have stand for the interpolations. To put the interpolations in is to put the
variables in first, and then to replace each of them by its interpolation as it is, whatever looks
like a placeholder there, in parentheses if it needs them. -/
theorem substitute_is_simultaneous (stem : List Char) {names : List String} {holes : List Tree}
    (count : names.length = holes.length) (distinct : names.Nodup) (tree : Tree)
    (fresh : ∀ node ∈ tree.nodes, ∀ id ∈ names, node.form ≠ .name id) :
    substitute stem holes tree =
      (substitute stem (names.map Tree.name) tree).replaceNames fun id =>
        (names.zip (holes.map guarded)).lookup id := by
  have assigns : Assigns (fun id => (names.zip (holes.map guarded)).lookup id) names holes := by
    rw [Assigns, map_lookup_zip distinct (by simpa using count), List.map_map]
    rfl
  have unnamed (node : Tree) (inside : node ∈ tree.nodes) :
      node.form.valueOf? (fun id => (names.zip (holes.map guarded)).lookup id) = none := by
    have unlike := fresh node inside
    unfold Form.valueOf?
    split
    · rename_i id isName
      refine List.lookup_eq_none_iff.mpr fun pair member => bne_iff_ne.mpr ?_
      rintro rfl
      exact unlike pair.1 (List.of_mem_zip member).1 isName
    · rfl
  have sameEmpty : (names.map Tree.name).isEmpty = holes.isEmpty := by
    rw [Bool.eq_iff_iff, List.isEmpty_iff_length_eq_zero, List.isEmpty_iff_length_eq_zero,
      List.length_map, count]
  unfold substitute
  rw [sameEmpty]
  split
  · exact (Tree.replaceNames_eq_self tree unnamed).symm
  · exact fill_names assigns tree unnamed

/-- Code with a placeholder in each place that one can stand in. -/
def perforated : Tree :=
  (parseExpression "[__css_hole_0, '__css_hole_0a', \x7b __css_hole_1, __css_hole_0: 1,
    'b__css_hole_1': x.__css_hole_0 \x7d]").toOption.getD .absent

/-- Interpolations that look like placeholders themselves. -/
def lookalikes : List Tree :=
  [.name "__css_hole_1", plus (literalOf "__css_hole_0".toList) (.name "__css_hole_0")]

def markers : List String := ["m", "n"]

/-- The code with markers in the place of the placeholders. -/
def marked : Tree :=
  substitute baseStem (markers.map Tree.name) perforated

def markedCode : String :=
  "[\n    m,\n    (\"\" + m + \"a\"),\n    \x7b\n        [n]: n,\n        [m]: 1,\n" ++
    "        [\"b\" + n]: x[m]\n    \x7d\n]"

theorem lookalikes_are_put_in_unchanged :
    marked.print = markedCode ∧
      substitute baseStem lookalikes perforated =
        marked.replaceNames fun id => (markers.zip (lookalikes.map guarded)).lookup id := by
  obtain ⟨fresh, printed⟩ :
      (∀ node ∈ perforated.nodes, ∀ id ∈ markers, node.form ≠ .name id) ∧
        marked.print = markedCode := by decide +kernel
  exact ⟨printed, substitute_is_simultaneous baseStem rfl (by decide) perforated fresh⟩

end Placeholder

end CssInline
