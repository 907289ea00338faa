import CssInline.Proofs.Concatenation
import CssInline.Proofs.Placed

/-! Code in which nothing is left to fill in: after a substitution no placeholder is left, also not
in the texts between two of them, and a second one changes nothing. -/

namespace CssInline.Placeholder

open Code

variable {stem : List Char} {count : Nat}

/-! Texts between placeholders -/

/-- The pieces of a text are a first text, as far as it is not empty, and then nothing or a
placeholder and the pieces of the text after it. The first text alone is not split. -/
theorem exists_first_text (isStem : IsStem stem) (pending text : List Char) :
    ∃ first, (∀ before, pieces stem count before first = flush (first.reverse ++ before)) ∧
      ∃ after more, text = first ++ after ∧ after.head?.any Char.isDigit = false ∧
        pieces stem count pending text = flush (first.reverse ++ pending) ++ more ∧
        (more = [] ∨ ∃ id rest, rest.length < text.length ∧
          more = .hole id :: pieces stem count [] rest) := by
  induction pending, text using split_induction count isStem.nonempty with
  | nil pending =>
    exact ⟨[], fun _ => rfl, [], [], rfl, rfl, (List.append_nil _).symm, .inl rfl⟩
  | @hole pending text id after taken _ =>
    have shorter := length_of_take? isStem.nonempty taken
    have starts := noDigit_of_starts isStem (starts_of_take? taken)
    exact ⟨[], fun _ => rfl, text, _, rfl, starts, pieces_of_take? isStem.nonempty taken pending,
      .inr ⟨id, after, shorter, rfl⟩⟩
  | @skip pending text after missing stripped ih =>
    obtain ⟨first, whole, rest, more, same, ends, split, next⟩ := ih
    have shorter := length_of_strip? isStem.nonempty stripped
    have begins := Text.eq_append_of_strip? stripped
    -- No number follows the stem in the whole text, so none does where the text is cut off.
    have unnumbered : take? stem count (stem ++ first) = none := by
      rw [begins, same, ← List.append_assoc] at missing
      exact take?_of_append missing ends
    refine ⟨stem ++ first, fun before => ?_, rest, more, ?_, ends, ?_, ?_⟩
    · rw [pieces_of_strip? isStem.nonempty unnumbered (Text.strip?_append stem first), whole,
        List.reverse_append, List.append_assoc]
    · rw [begins, same, List.append_assoc]
    · rw [pieces_of_strip? isStem.nonempty missing stripped, split, List.reverse_append,
        List.append_assoc]
    · refine next.imp_right ?_
      rintro ⟨id, left, small, isMore⟩
      exact ⟨id, left, Nat.lt_trans small shorter, isMore⟩
  | @cons pending c text apart ih =>
    obtain ⟨first, whole, rest, more, same, ends, split, next⟩ := ih
    have apartFirst : ¬ stem <+: c :: first := by
      intro starts
      refine apart (starts.trans ?_)
      rw [same]
      exact List.prefix_append (c :: first) rest
    refine ⟨c :: first, fun before => ?_, rest, more, ?_, ends, ?_, ?_⟩
    · rw [pieces_cons apartFirst, whole, List.reverse_cons, List.append_assoc]
      rfl
    · rw [same, List.cons_append]
    · rw [pieces_cons apart, split, List.reverse_cons, List.append_assoc]
      rfl
    · refine next.imp_right ?_
      rintro ⟨id, left, small, isMore⟩
      exact ⟨id, left, Nat.lt_trans small (Nat.lt_succ_self _), isMore⟩

theorem any_flush_isHole (pending : List Char) : (flush pending).any Piece.isHole = false := by
  unfold flush
  split <;> rfl

theorem mem_flush {pending value : List Char} (member : .text value ∈ flush pending) :
    value = pending.reverse := by
  unfold flush at member
  split at member
  · cases member
  · cases List.mem_singleton.mp member
    rfl

/-- No placeholder is in a text between placeholders. -/
theorem pieces_of_mem_pieces (isStem : IsStem stem) {text value : List Char}
    (member : .text value ∈ pieces stem count [] text) :
    (pieces stem count [] value).any Piece.isHole = false := by
  induction size : text.length using Nat.strongRecOn generalizing text with
  | ind length ih =>
    subst size
    obtain ⟨first, whole, _, more, _, _, split, next⟩ := exists_first_text isStem [] text
    rw [split] at member
    cases List.mem_append.mp member with
    | inl isFirst =>
      rw [List.append_nil] at isFirst
      rw [mem_flush isFirst, List.reverse_reverse, whole []]
      exact any_flush_isHole _
    | inr later =>
      cases next with
      | inl none =>
        rw [none] at later
        cases later
      | inr some =>
        obtain ⟨id, rest, shorter, isMore⟩ := some
        rw [isMore] at later
        cases later with
        | tail _ deeper => exact ih _ shorter deeper rfl

/-! Placeholders in code -/

/-- Whether a form is one that an interpolation can take the place of: a name with a number below
`count`, in any of the positions for names, or a string with such a name in it. -/
def isPlaceholder (stem : List Char) (count : Nat) : Form → Bool
  | .name id | .shorthand id | .keyName id | .memberName id =>
    (index? stem id.toList).any (· < count)
  | .string value _ | .keyString value _ => (split stem count value.toList).any Piece.isHole
  | _ => false

/-- Whether no placeholder is in the code. -/
def IsFilled (stem : List Char) (count : Nat) (tree : Tree) : Prop :=
  ∀ node ∈ tree.nodes, isPlaceholder stem count node.form = false

variable {holes : List Tree}

theorem isFilled_node {form : Form} {parts : List Tree} :
    IsFilled stem count (.node form parts) ↔
      isPlaceholder stem count form = false ∧ ∀ part ∈ parts, IsFilled stem count part :=
  Tree.forall_nodes.trans and_comm

theorem isFilled_paren {tree : Tree} (filled : IsFilled stem count tree) :
    IsFilled stem count tree.paren :=
  isFilled_node.mpr ⟨rfl, by simpa using filled⟩

theorem isFilled_guarded {tree : Tree} (filled : IsFilled stem count tree) :
    IsFilled stem count (guarded tree) := by
  unfold guarded
  split
  · exact filled
  · exact isFilled_paren filled

theorem isFilled_computed {tree : Tree} (filled : IsFilled stem count tree) :
    IsFilled stem count (computed tree) :=
  isFilled_node.mpr ⟨rfl, by simpa using filled⟩

theorem isFilled_plus {left right : Tree} (first : IsFilled stem count left)
    (second : IsFilled stem count right) : IsFilled stem count (plus left right) :=
  isFilled_node.mpr ⟨rfl, by simpa using ⟨first, second⟩⟩

theorem isFilled_literalOf (isStem : IsStem stem) {value : List Char}
    (whole : (pieces stem count [] value).any Piece.isHole = false) :
    IsFilled stem count (literalOf value) := by
  refine isFilled_node.mpr ⟨?_, nofun⟩
  rw [isPlaceholder, String.toList_ofList, any_split_isHole isStem.nonempty, whole]

/-- What is put in for one of the interpolations. -/
theorem isFilled_hole (clean : ∀ hole ∈ holes, IsFilled stem holes.length hole) {id : Nat}
    {hole : Tree} (found : holes[id]?.map guarded = some hole) :
    IsFilled stem holes.length hole := by
  obtain ⟨inner, isHole, same⟩ := Option.map_eq_some_iff.mp found
  rw [← same]
  exact isFilled_guarded (clean inner (List.mem_of_getElem? isHole))

theorem isFilled_holeFor? (clean : ∀ hole ∈ holes, IsFilled stem holes.length hole) {id : String}
    {hole : Tree} (found : holeFor? stem holes id = some hole) :
    IsFilled stem holes.length hole := by
  obtain ⟨index, _, isHole⟩ := Option.bind_eq_some_iff.mp found
  exact isFilled_hole clean isHole

theorem isFilled_operandOf (isStem : IsStem stem)
    (clean : ∀ hole ∈ holes, IsFilled stem holes.length hole) {text : List Char} {piece : Piece}
    (member : piece ∈ pieces stem holes.length [] text) :
    IsFilled stem holes.length (operandOf holes piece) := by
  cases piece with
  | text value => exact isFilled_literalOf isStem (pieces_of_mem_pieces isStem member)
  | hole id =>
    cases found : holes[id]? with
    | none =>
      rw [operandOf, found]
      exact isFilled_guarded (isFilled_node.mpr ⟨rfl, List.forall_mem_nil _⟩)
    | some hole =>
      rw [operandOf, found]
      exact isFilled_guarded (clean hole (List.mem_of_getElem? found))

theorem isFilled_foldl {operands : List Tree} (filled : ∀ tree ∈ operands, IsFilled stem count tree)
    {first : Tree} (begins : IsFilled stem count first) :
    IsFilled stem count (operands.foldl plus first) := by
  induction operands generalizing first with
  | nil => exact begins
  | cons operand operands ih =>
    have next := isFilled_plus begins (filled operand List.mem_cons_self)
    exact ih (fun tree member => filled tree (List.mem_cons_of_mem operand member)) next

theorem isFilled_sum? (isStem : IsStem stem)
    (clean : ∀ hole ∈ holes, IsFilled stem holes.length hole) {value : String} {sum : Tree}
    (found : sum? stem holes value = some sum) : IsFilled stem holes.length sum := by
  unfold sum? at found
  dsimp only at found
  split at found
  · rename_i hasHole
    cases found
    rw [any_split_isHole isStem.nonempty] at hasHole
    rw [split_of_hole isStem.nonempty hasHole]
    have operands (piece : Piece) (member : piece ∈ pieces stem holes.length [] value.toList) :
        IsFilled stem holes.length (operandOf holes piece) :=
      isFilled_operandOf isStem clean member
    have empty : IsFilled stem holes.length (literalOf []) := isFilled_literalOf isStem rfl
    unfold sumOf
    split
    · rename_i first more isFirst
      rw [isFirst] at operands
      refine isFilled_foldl ?_ (operands _ List.mem_cons_self)
      exact List.forall_mem_map.mpr fun piece member =>
        operands piece (List.mem_cons_of_mem _ member)
    · exact isFilled_foldl (List.forall_mem_map.mpr operands) empty
  · cases found

/-- What takes the place of a node holds no placeholder. -/
theorem isFilled_replacement? (isStem : IsStem stem)
    (clean : ∀ hole ∈ holes, IsFilled stem holes.length hole) {form : Form} {tree : Tree}
    (replaced : replacement? stem holes form = some tree) : IsFilled stem holes.length tree := by
  unfold replacement? at replaced
  split at replaced
  · exact isFilled_holeFor? clean replaced
  · obtain ⟨sum, found, rfl⟩ := Option.map_eq_some_iff.mp replaced
    exact isFilled_paren (isFilled_sum? isStem clean found)
  · obtain ⟨hole, found, rfl⟩ := Option.map_eq_some_iff.mp replaced
    have filled := isFilled_holeFor? clean found
    exact isFilled_node.mpr ⟨rfl, by simpa using ⟨isFilled_computed filled, filled⟩⟩
  · obtain ⟨hole, found, rfl⟩ := Option.map_eq_some_iff.mp replaced
    exact isFilled_computed (isFilled_holeFor? clean found)
  · obtain ⟨sum, found, rfl⟩ := Option.map_eq_some_iff.mp replaced
    exact isFilled_computed (isFilled_sum? isStem clean found)
  · obtain ⟨hole, found, rfl⟩ := Option.map_eq_some_iff.mp replaced
    exact isFilled_computed (isFilled_holeFor? clean found)
  · cases replaced

theorem holeFor?_eq_none {id : String} :
    holeFor? stem holes id = none ↔ (index? stem id.toList).any (· < holes.length) = false := by
  unfold holeFor?
  cases index? stem id.toList with
  | none => simp
  | some index => simp

theorem sum?_eq_none {value : String} :
    sum? stem holes value = none ↔
      (split stem holes.length value.toList).any Piece.isHole = false := by
  simp [sum?]

/-- A node is replaced just if it is a placeholder. -/
theorem replacement?_eq_none {form : Form} :
    replacement? stem holes form = none ↔ isPlaceholder stem holes.length form = false := by
  unfold replacement? isPlaceholder
  cases form <;> simp only [Option.map_eq_none_iff, holeFor?_eq_none, sum?_eq_none]

theorem isFilled_fill (isStem : IsStem stem)
    (clean : ∀ hole ∈ holes, IsFilled stem holes.length hole) (tree : Tree) :
    IsFilled stem holes.length (fill stem holes tree) := by
  induction tree using Tree.inductionOn with
  | node form parts ih =>
    cases replaced : replacement? stem holes form with
    | some tree =>
      rw [fill_of_some replaced]
      exact isFilled_replacement? isStem clean replaced
    | none =>
      rw [fill_of_none replaced, fillAll_eq_map]
      exact isFilled_node.mpr
        ⟨replacement?_eq_none.mp replaced, List.forall_mem_map.mpr ih⟩

/-- Code without placeholders is left alone. -/
theorem fill_of_isFilled (tree : Tree)
    (filled : IsFilled stem holes.length tree) : fill stem holes tree = tree := by
  induction tree using Tree.inductionOn with
  | node form parts ih =>
    obtain ⟨self, below⟩ := isFilled_node.mp filled
    have kept (part : Tree) (member : part ∈ parts) : fill stem holes part = id part :=
      ih part member (below part member)
    rw [fill_of_none (replacement?_eq_none.mpr self), fillAll_eq_map,
      List.map_congr_left kept, List.map_id]

theorem isFilled_of_no_holes (isStem : IsStem stem) (tree : Tree) : IsFilled stem 0 tree := by
  intro node _
  unfold isPlaceholder
  split <;> simp [any_split_isHole isStem.nonempty, pieces_zero isStem.nonempty]

theorem substitute_eq_fill (isStem : IsStem stem) (holes : List Tree) (tree : Tree) :
    substitute stem holes tree = fill stem holes tree := by
  cases holes with
  | nil => rw [substitute_nil_holes, fill_of_isFilled tree (isFilled_of_no_holes isStem tree)]
  | cons hole holes => simp [substitute, isStem.nonempty]

/-- After a substitution nothing is left to be substituted, in no position that a placeholder can
stand in and in no text of the sums that were made, and so a second substitution changes nothing.
The interpolations must hold no placeholders themselves. -/
theorem substitution_is_complete_and_idempotent (code : List Char) {holes : List Tree}
    (clean : ∀ hole ∈ holes, IsFilled (freshStem code) holes.length hole) (tree : Tree) :
    IsFilled (freshStem code) holes.length (substitute (freshStem code) holes tree) ∧
      substitute (freshStem code) holes (substitute (freshStem code) holes tree) =
        substitute (freshStem code) holes tree := by
  have isStem := freshStem_isStem code
  have filled := isFilled_fill isStem clean tree
  rw [substitute_eq_fill isStem, substitute_eq_fill isStem]
  exact ⟨filled, fill_of_isFilled _ filled⟩

/-- Code in which stems overlap and numbers are unknown, next to placeholders. -/
def crowded : Tree :=
  (parseExpression "\x7b __css_hole_0,
    __css_hole_1: '__css_hole__css_hole_0 __css_hole_01__css_hole_1',
    'a__css_hole_7__css_hole_0': x.__css_hole_0.__css_hole_00 \x7d").toOption.getD .absent

def crowdedCode : String :=
  "(\x7b\n    [a]: a,\n    [b.c]: (\"__css_hole__css_hole_0 __css_hole_01\" + b.c),\n" ++
    "    [\"a__css_hole_7\" + a]: x[a].__css_hole_00\n\x7d)"

def crowdedHoles : List Tree :=
  [.name "a", .node (.member .none) [.name "b", .leaf (.memberName "c")]]

theorem crowded_substitution_is_complete :
    (substitute baseStem crowdedHoles crowded).print = crowdedCode ∧
      IsFilled baseStem 2 (substitute baseStem crowdedHoles crowded) ∧
      substitute baseStem crowdedHoles (substitute baseStem crowdedHoles crowded) =
        substitute baseStem crowdedHoles crowded := by
  obtain ⟨printed, clean⟩ :
      (substitute baseStem crowdedHoles crowded).print = crowdedCode ∧
        ∀ hole ∈ crowdedHoles, ∀ node ∈ hole.nodes,
          isPlaceholder baseStem 2 node.form = false := by decide +kernel
  have fresh : freshStem [] = baseStem := by decide +kernel
  rw [← fresh]
  rw [← fresh] at printed clean
  exact ⟨printed, substitution_is_complete_and_idempotent [] clean crowded⟩

end CssInline.Placeholder
