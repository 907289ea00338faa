import CssInline.Proofs.Filled
import CssInline.Proofs.Grouping.Replacement
import CssInline.Proofs.Landing
import CssInline.Proofs.Program

/-! Interpolations in expressions: which places keep what is put in them as it is. -/

namespace CssInline

open Code

/-! Openings -/

namespace Code

theorem Form.own_or_led_or_commented (form : Form) :
    form.isOwn = true ∨ form.isLed = true ∨ ∃ comments, form = .commented comments := by
  by_cases led : form.isLed = true
  · exact .inr (.inl led)
  · unfold isOwn
    split
    · exact .inr (.inr ⟨_, rfl⟩)
    · exact .inl (by simpa using led)

/-- A tree that is led by its first part opens as that, unless that is the name `let` and a bracket
follows. -/
theorem Tree.opening_led {form : Form} (led : form.isLed = true) (part : Tree)
    (parts : List Tree) : (node form (part :: parts)).opening = part.opening ∨
      (node form (part :: parts)).opening = .letBracket ∧ part.opening = .plain := by
  cases bracket : opensLetBracket form part.unplaced (unplacedAll parts) with
  | false => exact .inl (opening_of_led led bracket)
  | true =>
    have isBracket := bracket
    unfold opensLetBracket at bracket
    split at bracket
    · rename_i chain id isName
      refine .inr ⟨?_, ?_⟩
      · change bareOpening (node (.member chain) (part.unplaced :: unplacedAll parts)) = _
        rw [bareOpening, if_pos led, if_pos isBracket]
      · unfold opening
        generalize part.unplaced = object at isName ⊢
        obtain ⟨form, parts⟩ := object
        obtain rfl : form = .name id := isName
        exact bareOpening_of_own rfl parts
    · cases bracket

/-- Whether a node gives a value to one of its parts. -/
def Form.isAssignment : Form → Bool
  | .update _ _ | .assign _ => true
  | _ => false

end Code

/-! What is put in -/

theorem isAtomic_guarded (tree : Tree) : isAtomic (guarded tree) = true := by
  unfold guarded
  split
  · assumption
  · rfl

theorem strength_of_isAtomic {tree : Tree} (atomic : isAtomic tree = true) :
    18 ≤ tree.strength := by
  obtain ⟨form, parts⟩ := tree
  cases form <;> first | exact absurd atomic Bool.false_ne_true | simp

theorem strength_guarded (tree : Tree) : 18 ≤ (guarded tree).strength :=
  strength_of_isAtomic (isAtomic_guarded tree)

namespace Code.Tree

/-- What binds tightly is no operation. -/
theorem standsFor_of_strength {tree tree' : Tree} (noCast : tree.isCast = false)
    (tight : 18 ≤ tree'.strength) : StandsFor tree tree' := by
  obtain ⟨form', parts'⟩ := tree'
  refine ⟨fun _ low _ => Nat.le_trans low tight, fun isCast => ?_, fun _ unary => ?_,
    fun _ operators operation => ?_⟩
  · rw [isCast] at noCast
    cases noCast
  · unfold isUnary at unary
    split at unary
    · rename_i same
      obtain rfl : form' = _ := same
      exact absurd tight (by simp)
    · rename_i same
      obtain rfl : form' = _ := same
      exact absurd tight (by simp)
    · cases unary
  · unfold hasOperator at operation
    split at operation
    · rename_i operator same
      obtain rfl : form' = _ := same
      have bound := bindingStrength_le operator
      rw [strength_node, Form.strength] at tight
      omega
    · cases operation

end Code.Tree

namespace Placeholder

variable {stem : List Char} {holes : List Tree}

/-- Whether every node of a tree is one of an interpolation or grouped. -/
def IsPut (holes : List Tree) (tree : Tree) : Prop :=
  ∀ node ∈ tree.nodes, node ∈ Tree.nodesOf holes ∨ node.IsGrouped

theorem isPut_node {form : Form} {parts : List Tree} (below : ∀ part ∈ parts, IsPut holes part)
    (self : (Code.Tree.node form parts).IsGrouped) : IsPut holes (.node form parts) :=
  Tree.forall_nodes.mpr ⟨below, .inr self⟩

theorem isPut_leaf (form : Form) : IsPut holes (.leaf form) :=
  isPut_node (List.forall_mem_nil _) (Tree.isGrouped_leaf form)

theorem isPut_guarded {tree : Tree} (put : IsPut holes tree) : IsPut holes (guarded tree) := by
  unfold guarded
  split
  · exact put
  · exact isPut_node (List.forall_mem_singleton.mpr put) ⟨trivial, trivial⟩

theorem isPut_computed {tree : Tree} (put : IsPut holes tree) : IsPut holes (computed tree) :=
  isPut_node (List.forall_mem_singleton.mpr put) ⟨trivial, trivial⟩

theorem isPut_hole {id : Nat} {hole : Tree} (found : holes[id]? = some hole) :
    IsPut holes (guarded hole) :=
  isPut_guarded fun _ inside =>
    .inl (Tree.mem_nodesOf.mpr ⟨hole, List.mem_of_getElem? found, inside⟩)

/-! Sums -/

/-- A sum, or an operand of one. -/
def IsTerm (holes : List Tree) (tree : Tree) : Prop :=
  IsPut holes tree ∧ leastLeft "+" ≤ tree.strength

theorem isTerm_literalOf (value : List Char) : IsTerm holes (literalOf value) :=
  ⟨isPut_leaf _, (by decide : leastLeft "+" ≤ 19)⟩

theorem isTerm_plus {left right : Tree} (isLeft : IsTerm holes left) (put : IsPut holes right)
    (tight : 18 ≤ right.strength) : IsTerm holes (plus left right) := by
  have least : leastRight "+" ≤ right.strength := Nat.le_trans (by decide) tight
  refine ⟨isPut_node ?_ ⟨⟨.inr isLeft.2, least, rfl⟩, trivial⟩, Nat.le_refl _⟩
  exact List.forall_mem_cons.mpr ⟨isLeft.1, List.forall_mem_singleton.mpr put⟩

theorem isTerm_foldl {operands : List Tree}
    (suits : ∀ operand ∈ operands, IsPut holes operand ∧ 18 ≤ operand.strength) {first : Tree}
    (isTerm : IsTerm holes first) : IsTerm holes (operands.foldl plus first) := by
  induction operands generalizing first with
  | nil => exact isTerm
  | cons operand operands ih =>
    obtain ⟨⟨put, tight⟩, suits⟩ := List.forall_mem_cons.mp suits
    exact ih suits (isTerm_plus isTerm put tight)

theorem suits_operandOf (piece : Piece) :
    IsPut holes (operandOf holes piece) ∧ 18 ≤ (operandOf holes piece).strength := by
  cases piece with
  | text value => exact ⟨isPut_leaf _, (by decide : 18 ≤ 19)⟩
  | hole id =>
    refine ⟨?_, strength_guarded _⟩
    cases found : holes[id]? with
    | none =>
      simp only [operandOf, found, Option.getD_none]
      exact isPut_guarded (isPut_leaf _)
    | some hole =>
      simp only [operandOf, found, Option.getD_some]
      exact isPut_hole found

theorem isPut_sum? {value : String} {sum : Tree} (found : sum? stem holes value = some sum) :
    IsPut holes sum := by
  have operands (pieces : List Piece) : ∀ operand ∈ pieces.map (operandOf holes),
      IsPut holes operand ∧ 18 ≤ operand.strength :=
    List.forall_mem_map.mpr fun piece _ => suits_operandOf piece
  unfold sum? at found
  dsimp only at found
  split at found
  · cases found
    unfold sumOf
    split <;> exact (isTerm_foldl (operands _) (isTerm_literalOf _)).1
  · cases found

/-! Replacements -/

theorem exists_hole_of_holeFor? {id : String} {tree : Tree}
    (found : holeFor? stem holes id = some tree) :
    ∃ hole ∈ holes, tree = guarded hole ∧ IsPut holes tree := by
  obtain ⟨index, _, isHole⟩ := Option.bind_eq_some_iff.mp found
  obtain ⟨hole, isAt, rfl⟩ := Option.map_eq_some_iff.mp isHole
  exact ⟨hole, List.mem_of_getElem? isAt, rfl, isPut_hole isAt⟩

/-- What takes the place of a node is an interpolation, or it is closed on its own: in parentheses
or brackets, or a property. -/
theorem replacement?_cases {form : Form} {tree : Tree}
    (replaced : replacement? stem holes form = some tree) :
    (∃ hole ∈ holes, tree = guarded hole) ∨
      19 ≤ tree.strength ∧ tree.form.isOwn = true ∧ tree.form.opening = .plain := by
  unfold replacement? at replaced
  split at replaced
  · obtain ⟨hole, member, same, _⟩ := exists_hole_of_holeFor? replaced
    exact .inl ⟨hole, member, same⟩
  all_goals
    first
    | obtain ⟨_, _, rfl⟩ := Option.map_eq_some_iff.mp replaced
      exact .inr ⟨Nat.le_refl 19, rfl, rfl⟩
    | cases replaced

theorem isPut_replacement? {form : Form} {tree : Tree}
    (replaced : replacement? stem holes form = some tree) : IsPut holes tree := by
  unfold replacement? at replaced
  split at replaced
  · obtain ⟨_, _, _, put⟩ := exists_hole_of_holeFor? replaced
    exact put
  · obtain ⟨sum, found, rfl⟩ := Option.map_eq_some_iff.mp replaced
    exact isPut_node (List.forall_mem_singleton.mpr (isPut_sum? found)) ⟨trivial, trivial⟩
  · obtain ⟨tree, found, rfl⟩ := Option.map_eq_some_iff.mp replaced
    obtain ⟨hole, _, rfl, put⟩ := exists_hole_of_holeFor? found
    have parts := List.forall_mem_cons.mpr ⟨isPut_computed put, List.forall_mem_singleton.mpr put⟩
    exact isPut_node parts ⟨Nat.le_trans (by decide) (strength_guarded hole), trivial⟩
  · obtain ⟨tree, found, rfl⟩ := Option.map_eq_some_iff.mp replaced
    obtain ⟨_, _, _, put⟩ := exists_hole_of_holeFor? found
    exact isPut_computed put
  · obtain ⟨sum, found, rfl⟩ := Option.map_eq_some_iff.mp replaced
    exact isPut_computed (isPut_sum? found)
  · obtain ⟨tree, found, rfl⟩ := Option.map_eq_some_iff.mp replaced
    obtain ⟨_, _, _, put⟩ := exists_hole_of_holeFor? found
    exact isPut_computed put
  · cases replaced

theorem strength_of_replacement? {form : Form} {tree : Tree}
    (replaced : replacement? stem holes form = some tree) : 18 ≤ tree.strength := by
  rcases replacement?_cases replaced with ⟨hole, _, rfl⟩ | ⟨tight, _⟩
  · exact strength_guarded hole
  · exact Nat.le_of_succ_le tight

/-! Filled code -/

/-- What is put in the place of a part groups where the part did. -/
theorem standsFor_fill (tree : Tree) : Tree.StandsFor tree (fill stem holes tree) := by
  obtain ⟨form, parts⟩ := tree
  cases replaced : replacement? stem holes form with
  | none =>
    rw [fill_of_none replaced]
    exact .ofForm rfl
  | some tree =>
    rw [fill_of_some replaced]
    refine Tree.standsFor_of_strength ?_ (strength_of_replacement? replaced)
    cases form <;> first | rfl | cases replaced

/-- A node of filled code is one of an interpolation, or was put in with it and is grouped, or is a
node of the code with its parts filled. -/
theorem mem_nodes_fill {tree node : Tree} (inside : node ∈ (fill stem holes tree).nodes) :
    (node ∈ Tree.nodesOf holes ∨ node.IsGrouped) ∨ ∃ form parts,
      Code.Tree.node form parts ∈ tree.nodes ∧ node = .node form (parts.map (fill stem holes)) := by
  induction tree using Tree.inductionOn with
  | node form parts ih =>
    cases replaced : replacement? stem holes form with
    | some tree =>
      rw [fill_of_some replaced] at inside
      exact .inl (isPut_replacement? replaced node inside)
    | none =>
      rw [fill_of_none replaced, fillAll_eq_map] at inside
      cases Tree.mem_nodes.mp inside with
      | inr same => exact .inr ⟨form, parts, Tree.mem_nodes.mpr (.inr rfl), same⟩
      | inl deeper =>
        obtain ⟨_, isPart, inside⟩ := deeper
        obtain ⟨part, member, rfl⟩ := List.mem_map.mp isPart
        refine (ih part member inside).imp_right ?_
        rintro ⟨form', parts', inPart, same⟩
        exact ⟨form', parts', Tree.mem_nodes.mpr (.inl ⟨part, member, inPart⟩), same⟩

theorem binds_fill {tree : Tree} (binds : ∀ node ∈ tree.nodes, node.Binds)
    (bound : ∀ hole ∈ holes, ∀ node ∈ hole.nodes, node.Binds) :
    ∀ node ∈ (fill stem holes tree).nodes, node.Binds := by
  intro node inside
  rcases mem_nodes_fill inside with (ofHole | grouped) | ⟨form, parts, isNode, rfl⟩
  · obtain ⟨hole, member, inHole⟩ := Tree.mem_nodesOf.mp ofHole
    exact bound hole member node inHole
  · exact grouped.1
  · exact Tree.binds_map (fun part _ => standsFor_fill part) (binds _ isNode)

/-! Places that ask for more -/

theorem isCallee_fill (callees : ∀ hole ∈ holes, (guarded hole).isCallee = true) {tree : Tree}
    (callee : tree.isCallee = true) : (fill stem holes tree).isCallee = true := by
  induction tree using Tree.isCallee.induct with
  | case1 chain object parts ih => exact ih callee
  | case2 line quasis tag parts ih => exact ih callee
  | case3 object parts ih => exact ih callee
  | case4 parts => rfl
  | case5 chain first parts =>
    obtain ⟨form, parts'⟩ := first
    obtain rfl : form = .superKeyword := beq_iff_eq.mp callee
    rfl
  | case6 form parts =>
    have tight : 19 ≤ form.strength := by
      rw [Tree.isCallee] at callee <;> first | assumption | exact of_decide_eq_true callee
    cases replaced : replacement? stem holes form with
    | none =>
      rw [fill_of_none replaced]
      exact Tree.isCallee_of_strength tight
    | some tree =>
      rw [fill_of_some replaced]
      rcases replacement?_cases replaced with ⟨hole, member, rfl⟩ | ⟨tight, _⟩
      · exact callees hole member
      · exact Tree.isCallee_of_strength tight

theorem opening_fill (allowed : Opening → Prop) (plain : allowed .plain)
    (bracket : allowed .letBracket) (put : ∀ hole ∈ holes, allowed (guarded hole).opening)
    {tree : Tree} (here : allowed tree.opening) : allowed (fill stem holes tree).opening := by
  induction tree using Tree.inductionOn with
  | node form parts ih =>
    cases replaced : replacement? stem holes form with
    | some tree =>
      rw [fill_of_some replaced]
      rcases replacement?_cases replaced with ⟨hole, member, rfl⟩ | ⟨_, own, isPlain⟩
      · exact put hole member
      · obtain ⟨form', parts'⟩ := tree
        have same : (Code.Tree.node form' parts').opening = .plain :=
          (Tree.opening_of_own own parts').trans isPlain
        rwa [same]
    | none =>
      rw [fill_of_none replaced, fillAll_eq_map]
      rcases form.own_or_led_or_commented with own | led | ⟨comments, rfl⟩
      · rw [Tree.opening_of_own own] at here ⊢
        exact here
      · cases parts with
        | nil => exact here
        | cons part parts =>
          have herePart : allowed part.opening := by
            rcases Tree.opening_led led part parts with same | ⟨_, isPlain⟩
            · rwa [same] at here
            · rwa [isPlain]
          rw [List.map_cons]
          rcases Tree.opening_led led (fill stem holes part) _ with same | ⟨same, _⟩
          · rw [same]
            exact ih part List.mem_cons_self herePart
          · rwa [same]
      · match parts with
        | [] => exact here
        | [inner] => exact ih inner List.mem_cons_self here
        | _ :: _ :: _ => exact here

theorem isBlock_fill {tree : Tree} (block : tree.isBlock = true) :
    (fill stem holes tree).isBlock = true := by
  obtain ⟨form, parts⟩ := tree
  unfold Tree.isBlock at block
  split at block
  · rename_i same
    obtain rfl : form = _ := same
    rfl
  · cases block

theorem admits_fill (callees : ∀ hole ∈ holes, (guarded hole).isCallee = true)
    (plainly : ∀ hole ∈ holes, (guarded hole).opening = .plain) {form : Form} {parts : List Tree}
    (admits : (Code.Tree.node form parts).Admits) :
    (Code.Tree.node form (parts.map (fill stem holes))).Admits ∨ form.isAssignment = true := by
  cases form with
  | update | assign => exact .inr rfl
  | new =>
    cases parts with
    | nil => exact .inl trivial
    | cons callee parts => exact .inl (isCallee_fill callees admits)
  | arrow =>
    match parts, admits with
    | [], _ => exact .inl trivial
    | [_], _ => exact .inl trivial
    | [_, _], _ => exact .inl trivial
    | [_, _, _], _ => exact .inl trivial
    | [_, _, _, body], admits =>
      have put : ∀ hole ∈ holes, (guarded hole).opening ≠ .brace := by
        intro hole member isBrace
        rw [plainly hole member] at isBrace
        cases isBrace
      exact .inl (admits.imp isBlock_fill (opening_fill (· ≠ .brace) (by decide) (by decide) put))
    | _ :: _ :: _ :: _ :: _ :: _, _ => exact .inl trivial
  | expressionStatement =>
    match parts, admits with
    | [], _ => exact .inl trivial
    | [value], admits =>
      exact .inl (opening_fill (fun opening => opening = .plain ∨ opening = .letBracket) (.inl rfl)
        (.inr rfl) (fun hole member => .inl (plainly hole member)) admits)
    | _ :: _ :: _, _ => exact .inl trivial
  | _ => exact .inl trivial

end Placeholder

/-! Reading again -/

/-- Whether an expression is what is read from the text of it in parentheses. -/
def ComesBack (tree : Tree) : Prop :=
  parseExpression tree.print = .ok (guarded tree)

instance (tree : Tree) : Decidable (ComesBack tree) :=
  inferInstanceAs (Decidable (_ = _))

/-- What is read from a text is grouped. -/
theorem isGrouped_of_parseExpression {source : String} {tree : Tree}
    (parsed : parseExpression source = .ok tree) : ∀ node ∈ tree.nodes, node.IsGrouped := by
  obtain ⟨inner, read, rfl⟩ := exists_inner_of_parseExpression parsed
  obtain ⟨item, isItem, same⟩ := map_unplacedAll_eq_singleton.mp read
  have placed := readItems_placed isItem item List.mem_cons_self
  have grouped := Tree.isGrouped_unplaced item fun node inside => (placed node inside).2
  rw [same] at grouped
  have inParen := (Tree.forall_nodes.mp grouped).1 _ List.mem_cons_self
  unfold guarded
  split
  · exact (Tree.forall_nodes.mp inParen).1 inner List.mem_cons_self
  · exact inParen

theorem isGrouped_of_comesBack {tree : Tree} (comesBack : ComesBack tree) :
    ∀ node ∈ tree.nodes, node.IsGrouped := by
  have grouped := isGrouped_of_parseExpression comesBack
  unfold guarded at grouped
  split at grouped
  · exact grouped
  · exact (Tree.forall_nodes.mp grouped).1 tree List.mem_cons_self

namespace Placeholder

/-- An interpolation after `new`. -/
def created : Tree :=
  .paren (.node (.new true) [.name "__css_hole_0", .absent])

def called : Tree :=
  .node (.call .none) [.name "f", .absent]

def added : Tree :=
  .node (.binary "+") [.name "a", .name "b"]

end Placeholder

end CssInline
